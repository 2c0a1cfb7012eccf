import ScriptLexer.Proofs.Cursor.Next
import ScriptLexer.Proofs.Session.Line

/-!
# What a session gives next

The log has no influence on what a session does: `Alike` sessions differ in their logs only, and go
on in the same way.  Two sessions *agree* if the next call for a token has the same result on both
and leaves them alike; from then on nobody can tell them apart.

A session that was asked for a token of its line, and found the line at its end, agrees with itself
before it was asked.  What it passed over would have been passed over by the next call.

No call of this kind changes more than the place, the reads to come and the log (`Moves`).
-/

namespace ScriptLexer

namespace Session

/-! ## The next token -/

lemma next_of_input_eq_none {s : Session} (h : s.input = none) : s.next = (.error .noStream, s) := by
  unfold next
  simp only [h]

/-- From a closed stream come the tokens that are left of the line. -/
lemma next_of_closed {s : Session} {input : Input} (h : s.input = some input)
    (hclosed : input.stream.isClosed = true) :
    s.next = (s.nextFromLine.1.bind fun found =>
      match found with
      | some t => .ok t
      | none => .error (.closedStream input.stream.origin), s.nextFromLine.2) := by
  unfold next
  simp only [h, hclosed, if_true]
  split <;> rename_i hline <;> rw [hline] <;> rfl

/-- Where nothing is left of the line, a closed stream is refused. -/
lemma next_of_closed_of_nil {s : Session} {input : Input} (h : s.input = some input)
    (hclosed : input.stream.isClosed = true) (hnil : s.cursor.rest = []) :
    s.next.1 = .error (.closedStream input.stream.origin) := by
  obtain ⟨after, hline, -⟩ := nextFromLine_of_scan (s := s) (Cursor.scan_of_nil hnil)
  rw [next_of_closed h hclosed, hline]
  rfl

/-! ## Sessions that differ in their logs -/

/-- The sessions differ in nothing but what has been recorded. -/
def Alike (s s' : Session) : Prop := ∃ log, s' = { s with log }

lemma Alike.refl (s : Session) : Alike s s := ⟨s.log, rfl⟩

lemma Alike.symm {s s' : Session} (h : Alike s s') : Alike s' s := by
  obtain ⟨log, rfl⟩ := h
  exact ⟨s.log, rfl⟩

lemma Alike.trans {s s' s'' : Session} (h : Alike s s') (h' : Alike s' s'') : Alike s s'' := by
  obtain ⟨log, rfl⟩ := h
  obtain ⟨log', rfl⟩ := h'
  exact ⟨log', rfl⟩

lemma alike_record (s : Session) (events : List Event) : Alike s (s.record events) := ⟨_, rfl⟩

lemma Alike.nextFromLine {s s' : Session} (h : Alike s s') :
    s.nextFromLine.1 = s'.nextFromLine.1 ∧ Alike s.nextFromLine.2 s'.nextFromLine.2 := by
  obtain ⟨log, rfl⟩ := h
  unfold Session.nextFromLine
  simp only [Session.rules]
  split
  · exact ⟨rfl, _, rfl⟩
  · exact ⟨rfl, _, rfl⟩

/-- A scan of the line moves the cursor and changes nothing else. -/
lemma alike_nextFromLine (s : Session) :
    Alike { s with cursor := (s.cursor.scan s.rules).cursor } s.nextFromLine.2 := by
  unfold Session.nextFromLine
  simp only
  split
  · exact ⟨_, rfl⟩
  · exact ⟨_, rfl⟩

/-- The session at another place, with other reads to come. -/
def moved (s : Session) (input : Input) (cursor : Cursor) (chunks : List Chunk) : Session :=
  { s with cursor, input := some { input with stream := { input.stream with chunks } } }

lemma moved_rules {s : Session} {input : Input} (h : s.input = some input) (cursor : Cursor)
    (chunks : List Chunk) : (s.moved input cursor chunks).rules = s.rules := by
  simp only [rules, moved, h]
  rfl

/-- The next token of an open stream is that of the cursor, and nothing but place and reads
changes. -/
lemma next_of_open {s : Session} {input : Input} (h : s.input = some input)
    (hopen : input.stream.isClosed = false) :
    let pull := s.cursor.next s.rules input.marked input.stream.chunks
    s.next.1 = pull.found.mapError .lexical ∧
      Alike (s.moved input pull.cursor pull.chunks) s.next.2 := by
  unfold next
  simp only [h, hopen, Bool.false_eq_true, if_false]
  exact ⟨rfl, _, rfl⟩

/-- A token is one of the line if the stream is closed, and else the next one of the cursor. -/
lemma next_eq_ok {s : Session} {t : Token} (h : s.next.1 = .ok t) :
    ∃ input, s.input = some input ∧
      (input.stream.isClosed = true ∧ s.nextFromLine.1 = .ok (some t) ∨
        input.stream.isClosed = false ∧
          (s.cursor.next s.rules input.marked input.stream.chunks).found = .ok t) := by
  cases hinput : s.input with
  | none =>
    rw [next_of_input_eq_none hinput] at h
    cases h
  | some input =>
    refine ⟨input, rfl, ?_⟩
    cases hclosed : input.stream.isClosed with
    | true =>
      rw [next_of_closed hinput hclosed] at h
      cases hline : s.nextFromLine.1 with
      | error failure =>
        rw [hline] at h
        cases h
      | ok found =>
        rw [hline] at h
        cases found with
        | none => cases h
        | some t' => exact Or.inl ⟨rfl, congrArg (Except.ok ∘ some) (Except.ok.inj h)⟩
    | false =>
      obtain ⟨hfound, -⟩ := next_of_open hinput hclosed
      rw [h] at hfound
      cases hpull : (s.cursor.next s.rules input.marked input.stream.chunks).found with
      | error e =>
        rw [hpull] at hfound
        cases hfound
      | ok t' =>
        rw [hpull] at hfound
        exact Or.inr ⟨rfl, congrArg Except.ok (Except.ok.inj hfound).symm⟩

/-! ## What changes -/

/-- The session at another place, with other reads to come and another log. -/
def Moves (s s' : Session) : Prop :=
  ∃ cursor chunks log, s' =
    { s with
      cursor
      log
      input := s.input.map fun input => { input with stream := { input.stream with chunks } } }

lemma moves_cursor (s : Session) (cursor : Cursor) (log : List Event) :
    Moves s { s with cursor, log } := by
  cases hinput : s.input with
  | none => exact ⟨cursor, [], log, by rw [hinput]; rfl⟩
  | some input => exact ⟨cursor, input.stream.chunks, log, by rw [hinput]; rfl⟩

lemma Alike.moves {s s' : Session} (h : Alike s s') : Moves s s' := by
  obtain ⟨log, rfl⟩ := h
  exact moves_cursor s s.cursor log

lemma moves_record (s : Session) (events : List Event) : Moves s (s.record events) :=
  (alike_record s events).moves

lemma moves_nextFromLine (s : Session) : Moves s s.nextFromLine.2 := by
  obtain ⟨log, halike⟩ := alike_nextFromLine s
  rw [halike]
  exact moves_cursor s _ log

lemma moves_setLine (s : Session) (line : Text) : Moves s (s.setLine line).2 := by
  unfold setLine
  split_ifs
  · exact moves_cursor s s.cursor s.log
  · exact moves_cursor s _ s.log

lemma moves_next (s : Session) : Moves s s.next.2 := by
  cases hinput : s.input with
  | none =>
    rw [next_of_input_eq_none hinput]
    exact moves_cursor s s.cursor s.log
  | some input =>
    cases hclosed : input.stream.isClosed with
    | true =>
      rw [next_of_closed hinput hclosed]
      exact moves_nextFromLine s
    | false =>
      obtain ⟨-, log, halike⟩ := next_of_open hinput hclosed
      let pull := s.cursor.next s.rules input.marked input.stream.chunks
      refine ⟨pull.cursor, pull.chunks, log, ?_⟩
      rw [halike, hinput]
      rfl

lemma Moves.isSome_input {s s' : Session} (h : Moves s s') : s'.input.isSome = s.input.isSome := by
  obtain ⟨cursor, chunks, log, rfl⟩ := h
  exact Option.isSome_map

lemma Moves.rules_eq {s s' : Session} (h : Moves s s') : s'.rules = s.rules := by
  have hstreaming := h.isSome_input
  obtain ⟨cursor, chunks, log, rfl⟩ := h
  simp only [rules, hstreaming]

/-! ## Sessions that give the same -/

/-- Asked for the next token, the sessions give the same answer and are alike afterwards. -/
structure Agrees (s s' : Session) : Prop where
  found : s.next.1 = s'.next.1
  after : Alike s.next.2 s'.next.2

lemma Agrees.symm {s s' : Session} (h : Agrees s s') : Agrees s' s := ⟨h.found.symm, h.after.symm⟩

lemma Agrees.trans {s s' s'' : Session} (h : Agrees s s') (h' : Agrees s' s'') : Agrees s s'' :=
  ⟨h.found.trans h'.found, h.after.trans h'.after⟩

lemma Alike.agrees {s s' : Session} (h : Alike s s') : Agrees s s' := by
  have hline := h.nextFromLine
  obtain ⟨log, hs'⟩ := h
  have hinput' : s'.input = s.input := by rw [hs']
  cases hinput : s.input with
  | none =>
    rw [hinput] at hinput'
    refine ⟨?_, ?_⟩
    · rw [next_of_input_eq_none hinput, next_of_input_eq_none hinput']
    · rw [next_of_input_eq_none hinput, next_of_input_eq_none hinput']
      exact ⟨log, hs'⟩
  | some input =>
    rw [hinput] at hinput'
    cases hclosed : input.stream.isClosed with
    | true =>
      refine ⟨?_, ?_⟩
      · rw [next_of_closed hinput hclosed, next_of_closed hinput' hclosed, hline.1]
      · rw [next_of_closed hinput hclosed, next_of_closed hinput' hclosed]
        exact hline.2
    | false =>
      obtain ⟨hfound, hafter⟩ := next_of_open hinput hclosed
      obtain ⟨hfound', hafter'⟩ := next_of_open hinput' hclosed
      subst hs'
      exact ⟨hfound.trans hfound'.symm, (hafter.symm.trans ⟨_, rfl⟩).trans hafter'⟩

/-- Two places of an open stream from which the cursor gives and leaves the same are no different
to a session. -/
lemma agrees_moved {s : Session} {input : Input} {cursor : Cursor} {chunks : List Chunk}
    (h : s.input = some input) (hopen : input.stream.isClosed = false)
    (hpull : (cursor.next s.rules input.marked chunks).outcome =
      (s.cursor.next s.rules input.marked input.stream.chunks).outcome) :
    Agrees s (s.moved input cursor chunks) := by
  obtain ⟨hfound, hafter⟩ := next_of_open h hopen
  obtain ⟨hfound', hafter'⟩ := next_of_open (s := s.moved input cursor chunks) rfl hopen
  simp only [Pull.outcome, Prod.mk.injEq] at hpull
  obtain ⟨hpull, hcursor, hchunks⟩ := hpull
  rw [moved_rules h] at hfound' hafter'
  refine ⟨?_, ?_⟩
  · rw [hfound, hfound', ← hpull]
    rfl
  · rw [← hcursor, ← hchunks] at hafter
    exact hafter.symm.trans hafter'

/-! ## A line at its end -/

/-- A token of the line is the next token of the source. -/
lemma next_of_nextFromLine_some {s after : Session} {t : Token} (hstream : s.input.isSome = true)
    (h : s.nextFromLine = (.ok (some t), after)) : s.next.1 = .ok t ∧ Alike s.next.2 after := by
  obtain ⟨input, hinput⟩ := Option.isSome_iff_exists.1 hstream
  obtain ⟨hscan, -, -⟩ := nextFromLine_eq_ok h
  have hafter := alike_nextFromLine s
  rw [h] at hafter
  cases hclosed : input.stream.isClosed with
  | true =>
    rw [next_of_closed hinput hclosed, h]
    exact ⟨rfl, Alike.refl after⟩
  | false =>
    obtain ⟨hfound, hnext⟩ := next_of_open hinput hclosed
    rw [Cursor.next_of_scan_some _ _ hscan] at hfound hnext
    have hsame : s.moved input (s.cursor.scan s.rules).cursor input.stream.chunks =
        { s with cursor := (s.cursor.scan s.rules).cursor } := by
      simp only [moved, hinput]
    rw [hsame] at hnext
    exact ⟨hfound, hnext.symm.trans hafter⟩

/-- A session that finds its line at the end agrees with itself before. -/
lemma agrees_of_nextFromLine_none {s after : Session} (hstream : s.input.isSome = true)
    (h : s.nextFromLine = (.ok none, after)) : Agrees s after := by
  obtain ⟨input, hinput⟩ := Option.isSome_iff_exists.1 hstream
  obtain ⟨hscan, -, -⟩ := nextFromLine_eq_ok h
  have hafter := alike_nextFromLine s
  rw [h] at hafter
  refine Agrees.trans ?_ hafter.agrees
  set ended : Session := { s with cursor := (s.cursor.scan s.rules).cursor } with hended
  have hinput' : ended.input = some input := hinput
  cases hclosed : input.stream.isClosed with
  | true =>
    have hagain : ended.nextFromLine.1 = .ok none := by
      unfold nextFromLine
      rw [show ended.cursor.scan ended.rules = _ from Cursor.scan_scan_of_none hscan]
    have hstay : Alike ended ended.nextFromLine.2 := by
      have hmove := alike_nextFromLine ended
      rw [show ended.cursor.scan ended.rules = _ from Cursor.scan_scan_of_none hscan] at hmove
      exact hmove
    refine ⟨?_, ?_⟩
    · rw [next_of_closed hinput hclosed, next_of_closed hinput' hclosed, h, hagain]
    · rw [next_of_closed hinput hclosed, next_of_closed hinput' hclosed, h]
      exact hafter.symm.trans hstay
  | false =>
    have hmoved : ended = s.moved input (s.cursor.scan s.rules).cursor input.stream.chunks := by
      simp only [hended, moved, hinput]
    rw [hmoved]
    exact agrees_moved hinput hclosed (Cursor.outcome_next_scan _ _ hscan)

end Session

end ScriptLexer
