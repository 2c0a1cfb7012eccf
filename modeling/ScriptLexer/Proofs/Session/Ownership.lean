import ScriptLexer.Proofs.Session.Calls
import ScriptLexer.Proofs.Session.Conservation
import ScriptLexer.Proofs.Session.Fault

/-!
# Who closes the stream

A session closes its stream once, if the stream is its own, at the first call that closes; a stream
that is not its own it never closes.  After this nothing is read any more.  What is left of the line
is all that a call for the next token can still give, and when it is used up such a call is refused.

The first part is an invariant of all calls (`Custody`): who owns the stream, how often it has been
closed, and whether the session remembers that it has closed.  The second part is an invariant of
all calls to a session that has closed its stream (`Shut`).
-/

namespace ScriptLexer

namespace Session

variable {s : Session} {input : Input}

/-! ## What is kept until the session is closed -/

/-- Whether the session has been closed, who owns its stream, and how often this has been closed. -/
def custody (s : Session) : Bool × Option (Bool × Nat) :=
  (s.closed, s.input.map fun input => (input.owned, input.stream.closings))

lemma Moves.custody_eq {s' : Session} (h : Moves s s') : s'.custody = s.custody := by
  obtain ⟨cursor, chunks, log, rfl⟩ := h
  simp only [custody, Option.map_map]
  rfl

/-! ## Closing -/

lemma close_of_closed (h : s.closed = true) : s.close = s := if_pos h

lemma close_of_owned (h : s.closed = false) (hinput : s.input = some input)
    (howned : input.owned = true) :
    s.close.closed = true ∧ s.close.input = some { input with stream := input.stream.close } := by
  unfold close
  simp only [h, hinput, howned, if_true, Bool.false_eq_true, if_false]
  exact ⟨rfl, rfl⟩

lemma input_close_of_borrowed (hinput : s.input = some input) (howned : input.owned = false) :
    s.close.input = some input := by
  unfold close
  split_ifs
  · exact hinput
  · simp only [hinput, howned, Bool.false_eq_true, if_false]

/-- The state of a session with a stream that had been closed `before` times when the session was
made; `released` tells whether there has been a call that closes since. -/
structure Custody (owned : Bool) (before : Nat) (released : Bool) (s : Session) : Prop where
  closed : owned = true → s.custody.1 = released
  stream : s.custody.2 = some (owned, before + if owned && released then 1 else 0)

namespace Custody

variable {owned released : Bool} {before : Nat}

lemma of_eq {s' : Session} (h : Custody owned before released s) (heq : s'.custody = s.custody) :
    Custody owned before released s' := by
  constructor
  · rw [heq]
    exact h.closed
  · rw [heq]
    exact h.stream

lemma kept (owned : Bool) (before : Nat) (released : Bool) :
    Kept (Custody owned before released) :=
  Kept.of_moves fun hmoves h => h.of_eq hmoves.custody_eq

lemma exists_input (h : Custody owned before released s) :
    ∃ input, s.input = some input ∧ input.owned = owned ∧
      input.stream.closings = before + if owned && released then 1 else 0 := by
  obtain ⟨input, hinput, hpair⟩ := Option.map_eq_some_iff.1 h.stream
  obtain ⟨howned, hclosings⟩ := Prod.mk.inj hpair
  exact ⟨input, hinput, howned, hclosings⟩

/-- Nothing is to be done for a stream that belongs to another. -/
lemma of_borrowed {released' : Bool} (h : Custody false before released s) :
    Custody false before released' s := ⟨nofun, h.stream⟩

lemma close (h : Custody owned before released s) : Custody owned before true s.close := by
  obtain ⟨input, hinput, howned, hclosings⟩ := h.exists_input
  cases owned with
  | false =>
    refine ⟨nofun, ?_⟩
    simp only [custody, input_close_of_borrowed hinput howned, Option.map_some, howned, hclosings]
    rfl
  | true =>
    have hclosed : s.closed = released := h.closed rfl
    cases released with
    | true =>
      rw [close_of_closed hclosed]
      exact h
    | false =>
      obtain ⟨hclosed', hinput'⟩ := close_of_owned hclosed hinput howned
      refine ⟨fun _ => hclosed', ?_⟩
      simp only [custody, hinput', Option.map_some, howned, Stream.close, hclosings]
      rfl

/-- One call. -/
lemma answer {c : Client} (h : Custody owned before released c.session) (call : Call) :
    Custody owned before (released || call.closes) (c.answer call).2.session := by
  cases hcall : call.closes with
  | false =>
    rw [Bool.or_false]
    exact (kept owned before released).answer h hcall
  | true =>
    rw [Bool.or_true]
    rcases answer_of_closes (c := c) hcall with hlast | ⟨hlast, hborrowed⟩
    · rw [hlast]
      exact h.close
    · rw [hlast]
      obtain ⟨input, hinput, howned, -⟩ := h.exists_input
      obtain rfl : owned = false := by simpa [hinput, howned] using hborrowed
      exact h.of_borrowed

/-- Any calls: what counts is whether one of them closes. -/
lemma run {c : Client} (h : Custody owned before released c.session) (calls : List Call) :
    Custody owned before (released || calls.any Call.closes) (c.run calls).session := by
  induction calls generalizing c released with
  | nil =>
    rw [List.any_nil, Bool.or_false]
    exact h
  | cons call calls ih =>
    have hlast := ih (h.answer call)
    rwa [Bool.or_assoc, ← List.any_cons] at hlast

end Custody

/-! ## Behind the closing of a stream -/

/-- An answer that comes from what is left of the line: a token cut off it, a fault that stands on
it, or, if it holds no more, the refusal to read from a closed stream. -/
inductive FromLine (s : Session) : Except Failure Token × Session → Prop
  /-- A token behind a gap. -/
  | token {after : Session} {t : Token} {g rest : Text} :
      s.cursor.rest = g ++ t.text ++ rest → Comment.Gap s.cursor.mode g .outside →
        after.cursor.rest = Text.trimStart rest → FromLine s (.ok t, after)
  /-- A fault behind a gap. -/
  | fault {after : Session} {fault : Fault} {g line : Text} :
      s.cursor.rest = g ++ line → Comment.Gap s.cursor.mode g .outside → fault.At line →
        FromLine s (.error (.lexical ⟨fault, some ⟨s.file, s.cursor.lineNumber⟩⟩), after)
  /-- The end of the line. -/
  | ended {after : Session} {input : Input} {m : Comment.Mode} :
      s.input = some input → Comment.Ending s.options.skipDirectives s.cursor.mode s.cursor.rest m →
        after.cursor.rest = [] → FromLine s (.error (.closedStream input.stream.origin), after)

/-- A closed stream is not read. -/
lemma fromLine_next (hinput : s.input = some input) (hclosed : input.stream.isClosed = true) :
    FromLine s s.next := by
  have hstreaming : s.rules.streaming = true := by simp [rules, hinput]
  rw [next_of_closed hinput hclosed]
  cases hline : s.nextFromLine with
  | mk found after =>
    cases found with
    | ok found =>
      obtain ⟨hscan, hcursor, -⟩ := nextFromLine_eq_ok hline
      cases found with
      | some t =>
        obtain ⟨-, -, g, rest, htext, hgap, hrest⟩ := Cursor.gap_of_scan_eq_some hscan
        exact FromLine.token htext hgap (hcursor ▸ hrest)
      | none =>
        have hending := Cursor.ending_of_scan_eq_none hscan
        rw [hstreaming, Bool.true_and] at hending
        obtain ⟨code, -, -, hend⟩ := Cursor.scan_eq_none hscan
        exact FromLine.ended hinput hending (by rw [hcursor, hend]; rfl)
    | error failure =>
      obtain ⟨fault, hscan, rfl, -⟩ := nextFromLine_eq_error hline
      obtain ⟨g, line, htext, hgap, hat⟩ := Cursor.gap_of_scan_eq_error hscan
      rw [Cursor.location_of_streaming hstreaming]
      exact FromLine.fault htext hgap hat

/-- The session has been closed, has this stream, and is on the line of this number. -/
structure Shut (input : Input) (lineNumber : Nat) (s : Session) : Prop where
  closed : s.closed = true
  input : s.input = some input
  lineNumber : s.cursor.lineNumber = lineNumber

/-- Nothing changes this. -/
lemma kept_shut (hclosed : input.stream.isClosed = true) (n : Nat) : Kept (Shut input n) := by
  have hnextFromLine : ∀ {s : Session}, Shut input n s → Shut input n s.nextFromLine.2 := by
    intro s h
    obtain ⟨log, hlog⟩ := alike_nextFromLine s
    rw [hlog]
    exact ⟨h.closed, h.input, (Cursor.lineNumber_scan _ _).trans h.lineNumber⟩
  constructor
  · exact hnextFromLine
  · intro s h
    rw [next_of_closed h.input hclosed]
    exact hnextFromLine h
  · intro s line h
    have hrefused : s.setLine line = (.error .hasStream, s) := if_pos (by rw [h.input]; rfl)
    rwa [hrefused]
  · intro s events h
    exact ⟨h.closed, h.input, h.lineNumber⟩

lemma Shut.run {c : Client} {n : Nat} (h : Shut input n c.session)
    (hclosed : input.stream.isClosed = true) (calls : List Call) :
    Shut input n (c.run calls).session := by
  refine (kept_shut hclosed n).run (fun {s} hs => ?_) h calls
  rwa [close_of_closed hs.closed]

/-! ## Whole sessions -/

lemma custody_create {setup : Setup} {stream : Stream} (hstream : setup.stream = some stream)
    (h : create setup = .ok s) : Custody setup.owned stream.closings false s := by
  obtain ⟨hclosed, hinput, -, -⟩ := create_eq_ok hstream h
  refine ⟨fun _ => hclosed, ?_⟩
  simp [custody, hinput]

end Session

/-- A file that has been opened is closed at the end, whether its mark is refused, a fault is met,
or its tokens are read. -/
lemma closings_tokenizeFile {files : FileSystem} {path : Text} {opened : OpenedFile}
    (h : OpenedFile.open files path = .ok opened) (options : Options) :
    (tokenizeFile files path options).stream.map (fun file => file.closings) = some 1 := by
  rcases tokenizeFile_of_opened h options with ⟨e, -, hstream⟩ |
    ⟨s, s', hcreate, halike, -, hstream⟩
  · rw [hstream]
    rfl
  · have hfile : (opened.setup path options).stream = some (Stream.ofFile opened.rest) := rfl
    have hnew : Session.Custody true 0 false s := Session.custody_create hfile hcreate
    have hopened : Session.Custody true 0 false s' := hnew.of_eq halike.moves.custody_eq
    have hlast := ((Session.Custody.kept true 0 false).tokenize hopened).close
    obtain ⟨input, hinput, -, hclosings⟩ := hlast.exists_input
    rw [hstream, hinput]
    exact congrArg some hclosings

namespace Session

/-- **A stream is closed once, by the session that owns it.**  Let a client make any calls to a new
session with a stream, calls that fail included.  The session has closed the stream once if it owns
it and some call closes, and else never.  Once it has closed a stream of its own, no further calls
read from it or change the number of the line; a call for the next token gives what is left of the
line, and is refused when nothing is left.  A file that is opened to take its tokens is closed in
the end, whatever comes of it. -/
theorem closed_once_by_owner {setup : Setup} {stream : Stream} {s : Session}
    (hstream : setup.stream = some stream) (hcreate : create setup = .ok s) (calls : List Call) :
    let c := (Client.mk s []).run calls
    c.session.input.map (fun input => input.stream.closings) =
        some (stream.closings + if setup.owned && calls.any Call.closes then 1 else 0) ∧
      (setup.owned = true → calls.any Call.closes = true → ∀ later : List Call,
        let last := (c.run later).session
        last.input = c.session.input ∧
          last.cursor.lineNumber = c.session.cursor.lineNumber ∧
          FromLine last last.next ∧
          (last.cursor.rest = [] → ∃ origin, last.next.1 = .error (.closedStream origin))) ∧
      ∀ (files : FileSystem) (path : Text) (options : Options) (opened : OpenedFile),
        OpenedFile.open files path = .ok opened →
          (tokenizeFile files path options).stream.map (fun file => file.closings) = some 1 := by
  intro c
  have hnew : Custody setup.owned stream.closings false (Client.mk s []).session :=
    custody_create hstream hcreate
  have hcustody : Custody setup.owned stream.closings (calls.any Call.closes) c.session :=
    hnew.run calls
  obtain ⟨input, hinput, howned, hclosings⟩ := hcustody.exists_input
  refine ⟨by rw [hinput, Option.map_some, hclosings], ?_, ?_⟩
  · intro hown hclose later last
    have hclosed : input.stream.isClosed = true := by
      simp [Stream.isClosed, hclosings, hown, hclose]
    have hshut : Shut input c.session.cursor.lineNumber c.session :=
      ⟨(hcustody.closed hown).trans hclose, hinput, rfl⟩
    have hlast := hshut.run hclosed later
    refine ⟨hlast.input.trans hinput.symm, hlast.lineNumber, fromLine_next hlast.input hclosed, ?_⟩
    intro hnil
    exact ⟨_, next_of_closed_of_nil hlast.input hclosed hnil⟩
  · intro files path options opened hopen
    exact closings_tokenizeFile hopen options

/-- A stream of two lines that is closed on the first: one more token comes from this line, and then
nothing.  A file of which the mark is refused is closed as well. -/
theorem closed_once_by_owner_two_lines :
    ∃ (setup : Setup) (stream : Stream) (s : Session) (c last : Client) (opened : OpenedFile),
      setup.stream = some stream ∧ create setup = .ok s ∧ setup.owned = true ∧
      stream.chunks.length = 2 ∧
      c = (Client.mk s []).run [.next, .exit, .close, .drop] ∧ last = c.run [.next] ∧
      c.session.input.map (fun input => input.stream.closings) = some 1 ∧
      last.session.cursor.rest = [] ∧ last.session.cursor.lineNumber = 1 ∧
      (∃ origin, last.session.next.1 = .error (.closedStream origin)) ∧
      OpenedFile.open (fun _ => .ok [0xFF, 0xFE]) "f".toList = .ok opened ∧
      (tokenizeFile (fun _ => .ok [0xFF, 0xFE]) "f".toList {}).stream.map
        (fun file => file.closings) = some 1 := by
  let stream := Stream.ofText "a b\nc".toList
  let setup : Setup := { stream := some stream, owned := true }
  obtain ⟨s, hcreate⟩ : ∃ s, create setup = .ok s := ⟨_, rfl⟩
  obtain ⟨opened, hopened⟩ : ∃ opened,
      OpenedFile.open (fun _ => .ok [0xFF, 0xFE]) "f".toList = .ok opened := ⟨_, rfl⟩
  obtain ⟨hclosings, hclosed, hfile⟩ :=
    closed_once_by_owner rfl hcreate [.next, .exit, .close, .drop]
  obtain ⟨-, hnumber, -, hrefused⟩ := hclosed rfl rfl [.next]
  obtain rfl := Except.ok.inj hcreate
  exact ⟨setup, stream, _, _, _, opened, rfl, rfl, rfl, rfl, rfl, rfl, hclosings, by decide +kernel,
    hnumber.trans (by decide +kernel), hrefused (by decide +kernel), hopened, hfile _ _ _ _ hopened⟩

end Session

end ScriptLexer
