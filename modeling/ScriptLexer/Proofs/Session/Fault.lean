import ScriptLexer.Proofs.Session.Pulling

/-!
# A faulty line stays faulty

A session that finds a fault on its line stands in front of the fault, or where it stood before.
Asked again for a token of the line it gives the same error, as often as it is asked, so nothing
behind the fault is delivered.

There is one exception.  A closing mark that closes nothing leaves the line as it was; if the line
began inside a comment, the comment has been left all the same, and the line is read again as text
outside comments.

Nothing but the place on the line and the log is changed by a fault (`nextFromLine_error_leaves`).
-/

namespace ScriptLexer.Session

variable {s after : Session}

/-- A call that fails has found a fault on the line. -/
lemma nextFromLine_eq_error {failure : Failure} (h : s.nextFromLine = (.error failure, after)) :
    ∃ fault, (s.cursor.scan s.rules).found = .error fault ∧
      failure = .lexical ⟨fault, s.cursor.location s.rules⟩ ∧
      Alike { s with cursor := (s.cursor.scan s.rules).cursor } after := by
  have hafter := alike_nextFromLine s
  rw [h] at hafter
  unfold nextFromLine at h
  simp only at h
  split at h
  · simp at h
  · rename_i fault hscan
    simp only [Prod.mk.injEq, Except.error.injEq] at h
    exact ⟨fault, hscan, h.1.symm, hafter⟩

lemma nextFromLine_of_scan_error {fault : Fault}
    (h : (s.cursor.scan s.rules).found = .error fault) :
    s.nextFromLine.1 = .error (.lexical ⟨fault, s.cursor.location s.rules⟩) := by
  unfold nextFromLine
  simp only [h]

/-- The session gives the error `e` for the next token of its line, and stays as it is but for what
has been recorded. -/
structure Stuck (s : Session) (e : LexicalError) : Prop where
  found : s.nextFromLine.1 = .error (.lexical e)
  stays : Alike s s.nextFromLine.2

lemma Stuck.of_alike {e : LexicalError} (h : Stuck s e) (halike : Alike s after) :
    Stuck after e := by
  obtain ⟨hfound, hafter⟩ := halike.nextFromLine
  exact ⟨hfound ▸ h.found, halike.symm.trans (h.stays.trans hafter)⟩

/-- Behind an error the session is stuck. -/
lemma stuck_of_nextFromLine {e : LexicalError} (h : s.nextFromLine = (.error (.lexical e), after))
    (hstart : s.cursor.mode = .outside ∨ e.fault.kind ≠ .unmatchedCommentEnd) : Stuck after e := by
  obtain ⟨fault, hscan, he, hafter⟩ := nextFromLine_eq_error h
  obtain rfl := Failure.lexical.inj he
  refine Stuck.of_alike ?_ hafter
  obtain ⟨hfound, hcursor⟩ := Cursor.scan_scan_of_error hscan hstart
  set moved : Session := { s with cursor := (s.cursor.scan s.rules).cursor }
  have hplace : moved.cursor.location moved.rules = s.cursor.location s.rules := by
    show (s.cursor.scan s.rules).cursor.location s.rules = _
    simp only [Cursor.location, Cursor.lineNumber_scan]
  constructor
  · rw [nextFromLine_of_scan_error (s := moved) hfound, hplace]
  · have hstays := alike_nextFromLine moved
    rw [show (moved.cursor.scan moved.rules).cursor = _ from hcursor] at hstays
    exact hstays

/-- A session that is stuck answers every further call in the same way. -/
lemma Stuck.answers_eq {e : LexicalError} (h : Stuck s e) (iterators : List Bool) (n : Nat) :
    ((Client.mk s iterators).answers (List.replicate n .nextFromLine)).map (fun a => a.1) =
        List.replicate n (.error (.lexical e)) ∧
      Alike s ((Client.mk s iterators).run (List.replicate n .nextFromLine)).session := by
  induction n generalizing s with
  | zero => exact ⟨rfl, Alike.refl s⟩
  | succ n ih =>
    obtain ⟨hanswers, hlast⟩ := ih (h.of_alike h.stays)
    have hfirst : ((Client.mk s iterators).answer .nextFromLine).1 = .error (.lexical e) := by
      show s.nextFromLine.1.map _ = _
      rw [h.found]
      rfl
    simp only [List.replicate_succ, Client.answers, List.map_cons, Client.run, List.foldl_cons]
    exact ⟨congrArg₂ List.cons hfirst hanswers, h.stays.trans hlast⟩

/-- **A scanning error repeats.**  Let a call for a token of the line fail, in any state of the
session.  Unless a closing mark without a comment was met on a line that began inside a comment, all
further calls fail with an equal error, so that no token is delivered, and they leave the session as
it is. -/
theorem nextFromLine_error_repeats {e : LexicalError}
    (h : s.nextFromLine = (.error (.lexical e), after))
    (hstart : s.cursor.mode = .outside ∨ e.fault.kind ≠ .unmatchedCommentEnd)
    (iterators : List Bool) (n : Nat) :
    let calls := List.replicate n Call.nextFromLine
    ((Client.mk after iterators).answers calls).map (fun answer => answer.1) =
        List.replicate n (.error (.lexical e)) ∧
      given ((Client.mk after iterators).answers calls) = [] ∧
      Alike after ((Client.mk after iterators).run calls).session := by
  intro calls
  obtain ⟨hanswers, hlast⟩ := (stuck_of_nextFromLine h hstart).answers_eq iterators n
  refine ⟨hanswers, List.flatMap_eq_nil_iff.2 fun answer hanswer => ?_, hlast⟩
  have hfailed : answer.1 ∈ List.replicate n (.error (.lexical e)) :=
    hanswers ▸ List.mem_map_of_mem hanswer
  rw [List.eq_of_mem_replicate hfailed]

/-- A line that begins inside a comment and holds a literal that is not closed: the fault is not a
closing mark, and the text of the comment is gone. -/
theorem nextFromLine_error_repeats_literal :
    ∃ (s after : Session) (e : LexicalError), s.cursor.mode = .block ∧
      s.cursor.rest = "a */ \"b".toList ∧ e.diagnostic.kind = .unterminatedString ∧
      s.nextFromLine = (.error (.lexical e), after) ∧
      ((Client.mk after []).answers (List.replicate 3 .nextFromLine)).map (fun answer => answer.1) =
        List.replicate 3 (.error (.lexical e)) := by
  let s : Session :=
    { file := "f".toList
      options := {}
      table := Table.standard
      input := none
      cursor := { rest := "a */ \"b".toList, lineNumber := 1, mode := .block } }
  let e : LexicalError := ⟨.literal (.unterminated .double) "\"b".toList, none⟩
  have hfound : s.nextFromLine.1 = .error (.lexical e) := by decide +kernel
  have h : s.nextFromLine = (.error (.lexical e), s.nextFromLine.2) := Prod.ext hfound rfl
  have hkind : e.fault.kind ≠ .unmatchedCommentEnd := nofun
  exact ⟨s, s.nextFromLine.2, e, rfl, rfl, rfl, h,
    (nextFromLine_error_repeats h (Or.inr hkind) [] 3).1⟩

/-- The error need not repeat if the line began inside a comment: behind the closing mark that
closes nothing, the text of the comment comes as a token. -/
theorem nextFromLine_error_not_repeated :
    ∃ s, create {} = .ok s ∧
      ((Client.mk s []).answers [.setLine "/* a".toList, .nextFromLine, .setLine "b */ */".toList,
        .nextFromLine, .nextFromLine]).map (fun answer => answer.1) =
      [.ok .nothing, .ok .nothing, .ok .nothing,
        .error (.lexical ⟨.strayClose .block "*/".toList, none⟩),
        .ok (.token
          { kind := .identifier, text := "b".toList, location := ⟨namelessSource, 2⟩,
            startsLine := true })] :=
  ⟨_, rfl, by decide +kernel⟩

/-! ## What an error leaves -/

/-- **The state behind an error.**  Let a call for a token of the line fail, in any state of the
session.  Then it fails with an error of the source.  No line has been read or counted, no token has
taken the mark of the first of its line, nothing has been closed, and the session stands outside
comments.  If a closing mark closes nothing, the line is as it was.  Else what is left of the line
begins with the faulty lexeme: nothing but comments and blanks has gone, no comment is in front of
what is left, and no lexeme can be read there, for the reason that is told. -/
theorem nextFromLine_error_leaves {failure : Failure} (h : s.nextFromLine = (.error failure, after)) :
    ∃ e : LexicalError, failure = .lexical e ∧
      (after.cursor.lineNumber = s.cursor.lineNumber ∧
        after.cursor.pendingStart = s.cursor.pendingStart ∧ after.closed = s.closed ∧
        after.input = s.input) ∧
      (after.cursor.mode = .outside ∧ after.cursor.mode.depth = 0) ∧
      (e.fault.kind = .unmatchedCommentEnd → after.cursor.rest = s.cursor.rest) ∧
      (e.fault.kind ≠ .unmatchedCommentEnd →
        after.cursor.rest ≠ [] ∧
        (∃ gap, s.cursor.rest = gap ++ after.cursor.rest ∧
          Comment.Gap s.cursor.mode gap .outside) ∧
        Comment.skip .outside after.cursor.rest = ⟨.code after.cursor.rest, .outside, []⟩ ∧
        Lexeme.read s.table s.options.caselessOperators after.cursor.rest = .error e.fault ∧
        e.fault.At after.cursor.rest) := by
  obtain ⟨fault, hscan, rfl, log, rfl⟩ := nextFromLine_eq_error h
  refine ⟨_, rfl, ?_⟩
  rcases Cursor.scan_eq_error hscan with ⟨form, line, -, rfl, hcursor⟩ |
    ⟨rest, hskip, hne, -, hread, hcursor⟩
  · -- a stray closing mark: only the mode is another
    rw [hcursor]
    exact ⟨⟨rfl, rfl, rfl, rfl⟩, ⟨rfl, rfl⟩, fun _ => rfl, fun hkind => absurd rfl hkind⟩
  · -- a faulty lexeme: the comments in front of it are gone
    rw [hcursor]
    have hfront := Comment.front_of_skip hskip hne
    obtain ⟨-, gap, hline, hgap⟩ := Comment.gap_of_skip hskip hne
    refine ⟨⟨rfl, rfl, rfl, rfl⟩, ⟨rfl, rfl⟩, fun hkind => ?_, fun _ => ?_⟩
    · exact absurd hkind (Lexeme.kind_ne_of_read_eq_error hfront hread)
    · exact ⟨hne, ⟨gap, hline, hgap⟩, Comment.skip_outside_of_front hfront, hread,
        Lexeme.at_of_read_eq_error hread⟩

/-- A line of an owned stream that begins inside a nested comment.  Behind it and one more comment
stands a literal with an escape that is unknown. -/
theorem nextFromLine_error_leaves_escape :
    ∃ (s after : Session) (e : LexicalError) (input : Input),
      s.cursor.rest = "a +/ /* b */ 'c\\q' d".toList ∧ s.cursor.mode = .nested 0 ∧
      s.cursor.pendingStart = true ∧ s.input = some input ∧
      s.nextFromLine = (.error (.lexical e), after) ∧
      e.diagnostic.kind = .unhandledEscape ∧ e.location = some ⟨"f".toList, 3⟩ ∧
      after.cursor =
        { rest := "'c\\q' d".toList, lineNumber := 3, pendingStart := true, mode := .outside } ∧
      after.input = s.input ∧ after.closed = s.closed ∧
      Comment.skip .outside after.cursor.rest = ⟨.code after.cursor.rest, .outside, []⟩ := by
  let input : Input := { stream := Stream.ofText "e".toList, owned := true, marked := false }
  let s : Session :=
    { file := "f".toList
      options := {}
      table := Table.standard
      input := some input
      cursor :=
        { rest := "a +/ /* b */ 'c\\q' d".toList, lineNumber := 3, pendingStart := true,
          mode := .nested 0 } }
  let e : LexicalError :=
    ⟨.literal (.escape (.unknown 'q')) "'c\\q' d".toList, some ⟨"f".toList, 3⟩⟩
  have hfound : s.nextFromLine.1 = .error (.lexical e) := by decide +kernel
  have h : s.nextFromLine = (.error (.lexical e), s.nextFromLine.2) := Prod.ext hfound rfl
  obtain ⟨e', he, ⟨-, -, hclosed, hinput⟩, -, -, hlexeme⟩ := nextFromLine_error_leaves h
  obtain rfl := Failure.lexical.inj he
  obtain ⟨-, -, hskip, -, -⟩ := hlexeme nofun
  exact ⟨s, s.nextFromLine.2, e, input, rfl, rfl, rfl, rfl, h, rfl, rfl, by decide +kernel, hinput,
    hclosed, hskip⟩

end ScriptLexer.Session
