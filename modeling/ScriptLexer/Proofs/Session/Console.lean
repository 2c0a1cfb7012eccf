import ScriptLexer.Proofs.Cursor.Rules
import ScriptLexer.Proofs.Session.Source
import ScriptLexer.Proofs.Source.Lines

/-!
# Lines handed over and lines of a stream

Lines can be handed over one by one to a session without a stream, each of them read to its end
(`Session.feed`), or they can be the lines of a stream.  The main result, `feed_agrees_with_stream`,
compares the two.  The tokens are the same.  Only a stream has an end, which is told by a token and
at which no comment may be open, and only its faults have a place.

Both runs are the reading of the same lines by `Cursor.exhaust`, under rules that give the same
meaning to text.  For the lines that are handed over this is `feed_of_exhaust_ok` and
`feed_of_exhaust_error`.
-/

namespace ScriptLexer

/-- The read that gives a line and the line feed behind it. -/
def Chunk.ofLine (line : Text) : Chunk := .text (line ++ ['\n'])

lemma Chunk.isEmpty_ofLine (line : Text) : (Chunk.ofLine line).isEmpty = false := by
  simp [Chunk.ofLine, Chunk.isEmpty]

namespace Cursor

variable {r : Rules} {c last : Cursor} {ts : List Token}

/-! ## Lines with their line feeds -/

/-- Behind a line that was read to its end, the next line is started and read. -/
lemma exhaust_ofLine_cons_of_rest (hrest : drain r c = .ok ([], c)) (line : Text)
    (chunks : List Chunk) :
    exhaust r false c (.ofLine line :: chunks) =
      (drain r (c.start line)).andThen fun last => exhaust r false last chunks := by
  rw [exhaust_cons_of_decode hrest (Chunk.isEmpty_ofLine line) rfl]
  simp only [unmarked, Bool.false_and, Bool.false_eq_true, if_false, start_append_lineFeed]

/-- Every line is counted. -/
lemma lineNumber_of_exhaust {lines : List Text}
    (h : exhaust r false c (lines.map .ofLine) = .ok (ts, last)) :
    last.lineNumber = c.lineNumber + lines.length := by
  have hchunks : ∀ chunk ∈ lines.map Chunk.ofLine, chunk.isEmpty = false := by
    simp [Chunk.isEmpty_ofLine]
  simpa using lineNumber_of_exhaust_eq_ok hchunks h

/-- An error is one of some line, behind lines that are read without any. -/
lemma exists_line_of_exhaust_error {lines : List Text} {e : LexicalError}
    (hrest : drain r c = .ok ([], c)) (h : exhaust r false c (lines.map .ofLine) = .error e) :
    ∃ before line behind ts last, lines = before ++ line :: behind ∧
      exhaust r false c (before.map .ofLine) = .ok (ts, last) ∧
      drain r (last.start line) = .error e := by
  obtain ⟨before, chunk, behind, ts, last, hchunks, hbefore, hfault⟩ :=
    exists_chunk_of_exhaust_error hrest h
  obtain ⟨before', lines', rfl, rfl, hlines'⟩ := List.map_eq_append_iff.1 hchunks
  obtain ⟨line, behind', rfl, rfl, rfl⟩ := List.map_eq_cons_iff.1 hlines'
  rcases hfault with ⟨fault, hdecode, -⟩ | ⟨text, hdecode, hdrain⟩
  · cases hdecode
  · obtain rfl := Except.ok.inj hdecode
    refine ⟨before', line, behind', ts, last, rfl, hbefore, ?_⟩
    simpa only [unmarked, Bool.false_and, Bool.false_eq_true, if_false, start_append_lineFeed]
      using hdrain

end Cursor

namespace Session

variable {s after : Session}

/-! ## Lines handed over -/

/-- Hands over lines one by one, each of them read to its end. -/
def feed (s : Session) : List Text → Except Failure (List Token) × Session
  | [] => (.ok [], s)
  | line :: lines =>
    match s.setLine line with
    | (.error failure, after) => (.error failure, after)
    | (.ok (), started) =>
      match started.drainLine with
      | (.error failure, after) => (.error failure, after)
      | (.ok ts, after) => ((feed after lines).1.map (ts ++ ·), (feed after lines).2)

/-- A new session for single lines. -/
def console (options : Options) : Session where
  file := namelessSource
  options := options
  table := Table.standard
  input := none
  log := [.tableBuilt]

/-- It is the session that is made if there is no stream. -/
lemma create_eq_console (options : Options) : create { options } = .ok (console options) := rfl

/-- A line without a fault is read to its end by the session as by its cursor. -/
lemma drainLine_of_drains {r : Rules} {c last : Cursor} {ts : List Token}
    (h : Cursor.Drains r c ts last) (hrules : s.rules = r) (hcursor : s.cursor = c) :
    ∃ after, s.drainLine = (.ok ts, after) ∧ after.cursor = last ∧ after.rules = s.rules := by
  induction h generalizing s with
  | done hscan =>
    subst hrules hcursor
    obtain ⟨next, hnext, hafter⟩ := nextFromLine_of_scan hscan
    exact ⟨next, drainLine_of_reads (Reads.done hnext), hafter⟩
  | token hscan _ ih =>
    subst hrules hcursor
    obtain ⟨next, hnext, hcursor, hrules⟩ := nextFromLine_of_scan hscan
    obtain ⟨after, hdrain, hlast, hrules'⟩ := ih hrules hcursor
    exact ⟨after, drainLine_of_reads (Reads.token hnext (reads_of_drainLine hdrain)), hlast,
      hrules'.trans hrules⟩

/-- One call, and then the others unless it ends the line. -/
lemma drainLine_eq (s : Session) :
    s.drainLine =
      match s.nextFromLine with
      | (.error failure, after) => (.error failure, after)
      | (.ok none, after) => (.ok [], after)
      | (.ok (some t), after) => (after.drainLine.1.map (t :: ·), after.drainLine.2) := by
  rw [drainLine]
  split
  · simp_all
  · simp_all
  · rename_i t after hnext
    rw [hnext]
    split <;> rename_i hlast <;> simp [hlast, Except.map]

/-- A fault on the line is met by the session as by its cursor. -/
lemma drainLine_of_fails {r : Rules} {c : Cursor} {e : LexicalError} (h : Cursor.Fails r c e)
    (hrules : s.rules = r) (hcursor : s.cursor = c) : s.drainLine.1 = .error (.lexical e) := by
  induction h generalizing s with
  | @fault c fault hscan =>
    subst hrules hcursor
    have hnext : s.nextFromLine.1 = .error (.lexical ⟨fault, s.cursor.location s.rules⟩) := by
      simp only [nextFromLine, hscan]
    rw [drainLine_eq, show s.nextFromLine = (_, s.nextFromLine.2) from Prod.ext hnext rfl]
  | token hscan _ ih =>
    subst hrules hcursor
    obtain ⟨next, hnext, hcursor, hrules⟩ := nextFromLine_of_scan hscan
    rw [drainLine_eq, hnext]
    show next.drainLine.1.map _ = _
    rw [ih hrules hcursor]
    rfl

/-- The session at the start of a line. -/
def started (s : Session) (line : Text) : Session := { s with cursor := s.cursor.start line }

/-- Without a stream a line is started and read, and then the others. -/
lemma feed_cons (hsingle : s.rules.streaming = false) (line : Text) (lines : List Text) :
    s.feed (line :: lines) =
      match (s.started line).drainLine with
      | (.error failure, after) => (.error failure, after)
      | (.ok ts, after) => ((after.feed lines).1.map (ts ++ ·), (after.feed lines).2) := by
  have hset : s.setLine line = (.ok (), s.started line) := if_neg (Bool.eq_false_iff.1 hsingle)
  rw [feed, hset]

/-- A line without a fault, and then the others. -/
lemma feed_cons_of_drains (hsingle : s.rules.streaming = false) {line : Text} {ts : List Token}
    {last : Cursor} (h : Cursor.Drains s.rules (s.cursor.start line) ts last)
    (lines : List Text) :
    ∃ next : Session, next.cursor = last ∧ next.rules = s.rules ∧
      s.feed (line :: lines) = ((next.feed lines).1.map (ts ++ ·), (next.feed lines).2) := by
  obtain ⟨next, hdrain, hlast, hrules⟩ := drainLine_of_drains (s := s.started line) h rfl rfl
  refine ⟨next, hlast, hrules, ?_⟩
  rw [feed_cons hsingle, hdrain]

/-- A line with a fault is the last one that is read. -/
lemma feed_cons_of_fails (hsingle : s.rules.streaming = false) {line : Text} {e : LexicalError}
    (h : Cursor.Fails s.rules (s.cursor.start line) e) (lines : List Text) :
    (s.feed (line :: lines)).1 = .error (.lexical e) := by
  have hdrain : (s.started line).drainLine =
      (.error (.lexical e), (s.started line).drainLine.2) :=
    Prod.ext (drainLine_of_fails h rfl rfl) rfl
  rw [feed_cons hsingle, hdrain]

/-- Lines without a fault are read by the session as by its cursor. -/
lemma feed_of_exhaust_ok {lines : List Text} {ts : List Token} {last : Cursor}
    (hsingle : s.rules.streaming = false) (hrest : s.cursor.drain s.rules = .ok ([], s.cursor))
    (h : s.cursor.exhaust s.rules false (lines.map .ofLine) = .ok (ts, last)) :
    (s.feed lines).1 = .ok ts ∧ (s.feed lines).2.cursor = last := by
  induction lines generalizing s ts with
  | nil =>
    rw [List.map_nil, Cursor.exhaust_nil, hrest] at h
    obtain ⟨rfl, rfl⟩ := Prod.mk.inj (Except.ok.inj h)
    exact ⟨rfl, rfl⟩
  | cons line lines ih =>
    rw [List.map_cons, Cursor.exhaust_ofLine_cons_of_rest hrest] at h
    obtain ⟨ts₁, c₁, ts₂, hfirst, hlater, rfl⟩ := Reading.andThen_eq_ok h
    have hdrains := Cursor.drain_eq_ok_iff.1 hfirst
    obtain ⟨next, rfl, hrules, hfeed⟩ := feed_cons_of_drains hsingle hdrains lines
    rw [← hrules] at hsingle hlater hdrains
    obtain ⟨hfound, hlast⟩ := ih hsingle hdrains.drain_last hlater
    rw [hfeed]
    refine ⟨?_, hlast⟩
    rw [hfound]
    rfl

/-- A fault on one of the lines is met by the session as by its cursor. -/
lemma feed_of_exhaust_error {lines : List Text} {e : LexicalError}
    (hsingle : s.rules.streaming = false) (hrest : s.cursor.drain s.rules = .ok ([], s.cursor))
    (h : s.cursor.exhaust s.rules false (lines.map .ofLine) = .error e) :
    (s.feed lines).1 = .error (.lexical e) := by
  induction lines generalizing s with
  | nil =>
    rw [List.map_nil, Cursor.exhaust_nil, hrest] at h
    cases h
  | cons line lines ih =>
    rw [List.map_cons, Cursor.exhaust_ofLine_cons_of_rest hrest] at h
    cases hfirst : (s.cursor.start line).drain s.rules with
    | error e' =>
      rw [hfirst] at h
      obtain rfl := Except.error.inj h
      exact feed_cons_of_fails hsingle (Cursor.drain_eq_error_iff.1 hfirst) lines
    | ok p =>
      obtain ⟨ts₁, c₁⟩ := p
      rw [hfirst, Reading.andThen_ok_eq_error_iff] at h
      have hdrains := Cursor.drain_eq_ok_iff.1 hfirst
      obtain ⟨next, rfl, hrules, hfeed⟩ := feed_cons_of_drains hsingle hdrains lines
      rw [← hrules] at hsingle h hdrains
      rw [hfeed, ih hsingle hdrains.drain_last h]
      rfl

lemma exhaust_of_feed_ok {lines : List Text} {ts : List Token}
    (hsingle : s.rules.streaming = false) (hrest : s.cursor.drain s.rules = .ok ([], s.cursor))
    (h : (s.feed lines).1 = .ok ts) :
    s.cursor.exhaust s.rules false (lines.map .ofLine) = .ok (ts, (s.feed lines).2.cursor) := by
  cases hread : s.cursor.exhaust s.rules false (lines.map .ofLine) with
  | error e =>
    rw [feed_of_exhaust_error hsingle hrest hread] at h
    cases h
  | ok p =>
    obtain ⟨ts', last⟩ := p
    obtain ⟨hfound, hlast⟩ := feed_of_exhaust_ok hsingle hrest hread
    obtain rfl := Except.ok.inj (hfound.symm.trans h)
    rw [hlast]

lemma exhaust_of_feed_error {lines : List Text} {failure : Failure}
    (hsingle : s.rules.streaming = false) (hrest : s.cursor.drain s.rules = .ok ([], s.cursor))
    (h : (s.feed lines).1 = .error failure) :
    ∃ e, failure = .lexical e ∧
      s.cursor.exhaust s.rules false (lines.map .ofLine) = .error e := by
  cases hread : s.cursor.exhaust s.rules false (lines.map .ofLine) with
  | error e =>
    rw [feed_of_exhaust_error hsingle hrest hread] at h
    exact ⟨e, (Except.error.inj h).symm, rfl⟩
  | ok p =>
    rw [(feed_of_exhaust_ok hsingle hrest hread).1] at h
    cases h

/-! ## The skipping of directives makes no difference -/

/-- The session with the skipping of directives switched on or off. -/
def withSkip (s : Session) (skip : Bool) : Session :=
  { s with options := { s.options with skipDirectives := skip } }

lemma nextFromLine_withSkip (hsingle : s.rules.streaming = false) (skip : Bool) :
    (s.withSkip skip).nextFromLine = (s.nextFromLine.1, s.nextFromLine.2.withSkip skip) := by
  have hsingle' : (s.withSkip skip).rules.streaming = false := hsingle
  have hdir : s.rules.directives = (s.withSkip skip).rules.directives := by
    simp only [Rules.directives, hsingle, hsingle', Bool.false_and]
  have hlanguage : s.rules.SameLanguage (s.withSkip skip).rules := ⟨rfl, rfl, rfl⟩
  have hscan : s.cursor.scan s.rules = (s.withSkip skip).cursor.scan (s.withSkip skip).rules :=
    Cursor.scan_eq_of_directives hlanguage hdir s.cursor
  unfold nextFromLine
  simp only [← hscan]
  cases (s.cursor.scan s.rules).found with
  | error fault => rfl
  | ok found => rfl

lemma streaming_nextFromLine (s : Session) :
    s.nextFromLine.2.rules.streaming = s.rules.streaming := by
  obtain ⟨log, hafter⟩ := alike_nextFromLine s
  rw [hafter]
  rfl

/-- Without a stream the setting changes nothing on a line, and there is no stream afterwards. -/
lemma drainLine_withSkip (hsingle : s.rules.streaming = false) (skip : Bool) :
    (s.withSkip skip).drainLine = (s.drainLine.1, s.drainLine.2.withSkip skip) ∧
      s.drainLine.2.rules.streaming = false := by
  induction hsize : s.pending using Nat.strong_induction_on generalizing s with
  | _ size ih =>
    subst hsize
    have hstep := streaming_nextFromLine s
    rw [drainLine_eq (s.withSkip skip), drainLine_eq s, nextFromLine_withSkip hsingle]
    rcases hnext : s.nextFromLine with ⟨failure | found, after⟩
    · rw [hnext] at hstep
      exact ⟨rfl, hstep.trans hsingle⟩
    · rw [hnext] at hstep
      cases found with
      | none => exact ⟨rfl, hstep.trans hsingle⟩
      | some t =>
        obtain ⟨hlater, hlast⟩ :=
          ih after.pending (pending_of_nextFromLine hnext) (hstep.trans hsingle) rfl
        simp only [hlater]
        exact ⟨trivial, hlast⟩

/-- Without a stream the setting changes nothing at all. -/
lemma feed_withSkip (hsingle : s.rules.streaming = false) (skip : Bool) (lines : List Text) :
    (s.withSkip skip).feed lines = ((s.feed lines).1, (s.feed lines).2.withSkip skip) := by
  induction lines generalizing s with
  | nil => rfl
  | cons line lines ih =>
    obtain ⟨hdrain, hafter⟩ := drainLine_withSkip (s := s.started line) hsingle skip
    rw [feed_cons hsingle, feed_cons (s := s.withSkip skip) hsingle,
      show (s.withSkip skip).started line = (s.started line).withSkip skip from rfl, hdrain]
    cases hrun : (s.started line).drainLine with
    | mk result after =>
      rw [hrun] at hafter
      cases result with
      | error failure => rfl
      | ok ts => simp only [ih hafter]

/-! ## The two runs -/

/-- The lines as a text, each with a line feed behind it. -/
def joinLines (lines : List Text) : Text := lines.flatMap (· ++ ['\n'])

/-- The lines of the text are read one by one. -/
lemma readText_joinLines {lines : List Text} (hlines : ∀ line ∈ lines, '\n' ∉ line) (r : Rules)
    (c : Cursor) : c.readText r (joinLines lines) = c.exhaust r false (lines.map .ofLine) := by
  unfold Cursor.readText joinLines
  rw [cutAfter_flatMap hlines, List.map_map]
  rfl

lemma sameLanguage_textRules (caseless skip skip' : Bool) :
    (console ⟨caseless, skip⟩).rules.SameLanguage (textRules namelessSource ⟨caseless, skip'⟩) :=
  ⟨rfl, rfl, rfl⟩

/-- A new session has nothing to read. -/
lemma drain_initial (r : Rules) : ({} : Cursor).drain r = .ok ([], {}) := Cursor.drain_of_nil rfl

/-- Lines that are read without a fault are the lines of the stream up to its end. -/
lemma tokenizeText_of_feed_ok {lines : List Text} (hlines : ∀ line ∈ lines, '\n' ∉ line)
    {caseless skip : Bool} {ts : List Token} {after : Session}
    (h : (console ⟨caseless, skip⟩).feed lines = (.ok ts, after)) (skip' : Bool) :
    after.cursor.lineNumber = lines.length ∧
      tokenizeText namelessSource ⟨caseless, skip'⟩ (joinLines lines) =
        ((after.cursor.finish (textRules namelessSource ⟨caseless, skip'⟩)).map
          fun t => ts ++ [t]).mapError .lexical := by
  have hfound : ((console ⟨caseless, skip⟩).feed lines).1 = .ok ts := by rw [h]
  have hread := exhaust_of_feed_ok rfl (drain_initial _) hfound
  rw [h] at hread
  have hread' : ({} : Cursor).readText (textRules namelessSource ⟨caseless, skip'⟩)
      (joinLines lines) = .ok (ts, after.cursor) := by
    rw [readText_joinLines hlines]
    exact Cursor.exhaust_eq_ok (sameLanguage_textRules caseless skip skip') rfl rfl hread
  refine ⟨(Cursor.lineNumber_of_exhaust hread).trans (Nat.zero_add _), ?_⟩
  rw [tokenizeText_eq, hread']
  rfl

/-- A fault on a line that is handed over is met on the same line of the stream. -/
lemma tokenizeText_of_feed_error {lines : List Text} (hlines : ∀ line ∈ lines, '\n' ∉ line)
    {caseless skip : Bool} {failure : Failure}
    (h : ((console ⟨caseless, skip⟩).feed lines).1 = .error failure) :
    ∃ before line behind ts fault, lines = before ++ line :: behind ∧
      ((console ⟨caseless, skip⟩).feed before).1 = .ok ts ∧
      ((console ⟨caseless, skip⟩).feed (before ++ [line])).1 = .error failure ∧
      failure = .lexical ⟨fault, none⟩ ∧
      tokenizeText namelessSource ⟨caseless, false⟩ (joinLines lines) =
        .error (.lexical ⟨fault, some ⟨namelessSource, before.length + 1⟩⟩) := by
  obtain ⟨e, rfl, hread⟩ := exhaust_of_feed_error rfl (drain_initial _) h
  obtain ⟨before, line, behind, ts, last, rfl, hbefore, hline⟩ :=
    Cursor.exists_line_of_exhaust_error (drain_initial _) hread
  have hlast := Cursor.drain_of_exhaust_eq_ok hbefore
  have hfails := Cursor.drain_eq_error_iff.1 hline
  have hchunks : ∀ chunk ∈ before.map Chunk.ofLine, chunk.isEmpty = false := by
    simp [Chunk.isEmpty_ofLine]
  have hplace : e.location = none := hfails.location_eq
  refine ⟨before, line, behind, ts, e.fault, rfl,
    (feed_of_exhaust_ok rfl (drain_initial _) hbefore).1,
    feed_of_exhaust_error rfl (drain_initial _) ?_, by rw [← hplace], ?_⟩
  · rw [List.map_append, Cursor.exhaust_append hchunks, show (console _).cursor = {} from rfl,
      hbefore, Reading.andThen_ok_eq_error_iff, List.map_cons, List.map_nil,
      Cursor.exhaust_ofLine_cons_of_rest hlast, hline, Reading.andThen_error]
  · -- the lines in front are read in the same way, and so the fault is on the same line
    have hlanguage := sameLanguage_textRules caseless skip false
    have hbefore' := Cursor.exhaust_eq_ok hlanguage rfl rfl hbefore
    have hlast' := Cursor.drain_of_exhaust_eq_ok hbefore'
    have hfails' := hfails.of_sameLanguage hlanguage rfl
    have hnumber : last.lineNumber = before.length := by
      simpa using Cursor.lineNumber_of_exhaust hbefore
    have hplace' : (last.start line).location (textRules namelessSource ⟨caseless, false⟩) =
        some ⟨namelessSource, before.length + 1⟩ := by
      rw [← hnumber]
      rfl
    rw [tokenizeText_eq, readText_joinLines hlines, List.map_append, Cursor.exhaust_append hchunks,
      hbefore', List.map_cons, Reading.andThen_ok, Cursor.exhaust_ofLine_cons_of_rest hlast',
      hfails'.drain_eq, hplace']
    rfl

/-- **Lines handed over and lines of a stream.**  Lines without line feeds are handed over to a new
session, with directives skipped or not, and a stream of the same lines is read.

* If there is no fault, and no comment is open at the end, the stream gives the same tokens and the
  token that ends it, whether or not directives are skipped.
* If there is no fault, and a comment is open at the end, this is an error in the stream.
* A fault on a line that is handed over, the first one there is, has no place; in the stream, with
  directives not skipped, the same fault is met with the number of the line.
* Whether directives are skipped makes no difference to lines that are handed over. -/
theorem feed_agrees_with_stream (caseless : Bool) {lines : List Text}
    (hlines : ∀ line ∈ lines, '\n' ∉ line) :
    let fed (skip : Bool) (lines : List Text) := (console ⟨caseless, skip⟩).feed lines
    let streamed (skip : Bool) := tokenizeText namelessSource ⟨caseless, skip⟩ (joinLines lines)
    (∀ skip ts, (fed skip lines).1 = .ok ts → (fed skip lines).2.cursor.mode = .outside →
      ∀ skip', streamed skip' = .ok (ts ++
        [{ kind := .endOfFile, text := endText,
           location := ⟨namelessSource, max lines.length 1⟩, startsLine := true }])) ∧
    (∀ skip ts, (fed skip lines).1 = .ok ts → (fed skip lines).2.cursor.mode ≠ .outside →
      ∀ skip', ∃ fault, fault.kind = .unterminatedComment ∧
        streamed skip' = .error (.lexical ⟨fault, some ⟨namelessSource, lines.length⟩⟩)) ∧
    (∀ skip failure, (fed skip lines).1 = .error failure →
      ∃ before line behind ts fault, lines = before ++ line :: behind ∧
        (fed skip before).1 = .ok ts ∧ (fed skip (before ++ [line])).1 = .error failure ∧
        failure = .lexical ⟨fault, none⟩ ∧
        streamed false =
          .error (.lexical ⟨fault, some ⟨namelessSource, before.length + 1⟩⟩)) ∧
    ∀ skip skip', fed skip' lines = ((fed skip lines).1, (fed skip lines).2.withSkip skip') := by
  intro fed streamed
  refine ⟨?_, ?_, ?_, ?_⟩
  · intro skip ts hfed hmode skip'
    obtain ⟨hnumber, hresult⟩ := tokenizeText_of_feed_ok hlines (Prod.ext hfed rfl) skip'
    rw [Cursor.finish_of_outside hmode, hnumber] at hresult
    exact hresult
  · intro skip ts hfed hmode skip'
    obtain ⟨hnumber, hresult⟩ := tokenizeText_of_feed_ok hlines (Prod.ext hfed rfl) skip'
    obtain ⟨fault, hkind, hfinish⟩ := Cursor.finish_of_ne_outside
      (r := textRules namelessSource ⟨caseless, skip'⟩) hmode
    rw [hfinish, Cursor.location_of_streaming rfl, hnumber] at hresult
    exact ⟨fault, hkind, hresult⟩
  · intro skip failure hfed
    exact tokenizeText_of_feed_error hlines hfed
  · intro skip skip'
    exact feed_withSkip (s := console ⟨caseless, skip⟩) rfl skip' lines

/-- A comment over three lines, with a number sign in it, and a bracket that starts a line anyway.
-/
theorem feed_agrees_with_stream_comment :
    ∃ (lines : List Text) (ts : List Token), (∀ line ∈ lines, '\n' ∉ line) ∧
      ((console ⟨true, false⟩).feed lines).1 = .ok ts ∧
      ts.map (fun t => (t.text, t.startsLine)) = [("a".toList, true), ("\x7d".toList, true)] ∧
      tokenizeText namelessSource ⟨true, true⟩ (joinLines lines) = .ok (ts ++
        [{ kind := .endOfFile, text := endText, location := ⟨namelessSource, 3⟩,
           startsLine := true }]) := by
  let lines : List Text := ["a /* # ".toList, [], "*/ \x7d // b".toList]
  let ts : List Token :=
    [{ kind := .identifier, text := "a".toList, location := ⟨namelessSource, 1⟩,
       startsLine := true },
      { kind := .operator .rightCurl, text := "\x7d".toList, location := ⟨namelessSource, 3⟩,
        startsLine := true }]
  have hlines : ∀ line ∈ lines, '\n' ∉ line := by decide
  have hfed : ((console ⟨true, false⟩).feed lines).1 = .ok ts := by decide +kernel
  have hmode : ((console ⟨true, false⟩).feed lines).2.cursor.mode = .outside := by decide +kernel
  exact ⟨lines, ts, hlines, hfed, rfl,
    (feed_agrees_with_stream true hlines).1 false ts hfed hmode true⟩

end Session

end ScriptLexer
