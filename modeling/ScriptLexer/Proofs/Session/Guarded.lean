import ScriptLexer.Proofs.Cursor.Guarded
import ScriptLexer.Proofs.Session.Console

/-!
# Every run comes to an end

Guarded runs of a session, as in `Proofs.Lexeme.Guarded` and `Proofs.Cursor.Guarded`: every
assumption on the way is checked, and every loop has a bound on its rounds.  The main result,
`guarded_total`, says that a bound greater than what is left to read is enough, that there is never
a breach, and that such a run gives tokens or an error of the source.  This holds in every state of
a session, with any table, any options and any reads.

The reason is that every token takes something off the line that it is cut off.
-/

namespace ScriptLexer

/-- Every read to come counts. -/
lemma Cursor.length_le_pending (c : Cursor) (chunks : List Chunk) :
    chunks.length ≤ c.pending chunks := by
  have hreads : chunks.length ≤ chunks.foldr (fun chunk size => chunk.size + 1 + size) 0 := by
    induction chunks with
    | nil => exact Nat.le_refl 0
    | cons chunk chunks ih =>
      rw [List.length_cons, List.foldr_cons]
      omega
  exact Nat.le_add_left_of_le hreads

namespace Session

/-! ## Guarded calls -/

/-- What a scan gives the caller of a session, and the session behind it. -/
def ofScan (s : Session) (scan : Scan) : Except Failure (Option Token) × Session :=
  let after := { s with cursor := scan.cursor }.record scan.events
  match scan.found with
  | .ok found => (.ok found, after)
  | .error fault => (.error (.lexical ⟨fault, s.cursor.location s.rules⟩), after)

/-- What a token of a stream gives the caller of a session, and the session behind it. -/
def ofPull (s : Session) (input : Input) (pull : Pull) : Except Failure Token × Session :=
  let stream := { input.stream with chunks := pull.chunks }
  let after := { s with cursor := pull.cursor, input := some { input with stream } }
  (pull.found.mapError .lexical, after.record pull.events)

/-- The next token of the line at hand, guarded. -/
def nextFromLineGuarded (steps : Nat) (s : Session) :
    Guarded (Except Failure (Option Token) × Session) :=
  (s.cursor.scanGuarded steps s.rules).map s.ofScan

/-- The next token of the source, guarded. -/
def nextGuarded (steps : Nat) (s : Session) : Guarded (Except Failure Token × Session) :=
  match s.input with
  | none => .ok (.error .noStream, s)
  | some input =>
    if input.stream.isClosed then
      (s.nextFromLineGuarded steps).map fun
        | (.ok (some t), after) => (.ok t, after)
        | (.ok none, after) => (.error (.closedStream input.stream.origin), after)
        | (.error failure, after) => (.error failure, after)
    else
      (s.cursor.nextGuarded steps s.rules input.marked steps input.stream.chunks).map
        (s.ofPull input)

/-- Reads tokens up to the one that ends the source, guarded. -/
def collectGuarded (steps : Nat) :
    (rounds : Nat) → Session → Guarded (Except Failure (List Token) × Session)
  | 0, _ => .error .unfinished
  | rounds + 1, s =>
    (s.nextGuarded steps).bind fun
      | (.error failure, after) => .ok (.error failure, after)
      | (.ok t, after) =>
        if t.kind = .endOfFile then .ok (.ok [t], after)
        else (collectGuarded steps rounds after).map fun (found, last) => (found.map (t :: ·), last)

/-- Reads all remaining tokens, guarded. -/
def tokenizeGuarded (steps : Nat) (s : Session) : Guarded (Except Failure (List Token) × Session) :=
  (s.collectGuarded steps steps).map fun
    | (.ok ts, after) => (.ok ts, after.record [.tokenized s.file ts.length])
    | (.error failure, after) => (.error failure, after)

/-- Reads the remaining tokens of the line at hand, guarded. -/
def drainLineGuarded (steps : Nat) :
    (rounds : Nat) → Session → Guarded (Except Failure (List Token) × Session)
  | 0, _ => .error .unfinished
  | rounds + 1, s =>
    (s.nextFromLineGuarded steps).bind fun
      | (.error failure, after) => .ok (.error failure, after)
      | (.ok none, after) => .ok (.ok [], after)
      | (.ok (some t), after) =>
        (drainLineGuarded steps rounds after).map fun (found, last) => (found.map (t :: ·), last)

/-! ## There is no breach -/

variable {s : Session} {steps rounds : Nat}

lemma nextFromLineGuarded_eq (h : s.pending < steps) :
    s.nextFromLineGuarded steps = .ok s.nextFromLine := by
  have hline : s.cursor.rest.length < steps :=
    Nat.lt_of_le_of_lt (Nat.le_add_right _ _) h
  rw [nextFromLineGuarded, Cursor.scanGuarded_eq hline]
  rfl

lemma nextGuarded_eq (h : s.pending < steps) : s.nextGuarded steps = .ok s.next := by
  unfold nextGuarded next
  cases hinput : s.input with
  | none => rfl
  | some input =>
    have hpending : s.cursor.pending input.stream.chunks < steps := by
      simpa [pending, hinput] using h
    dsimp only
    split_ifs
    · rw [nextFromLineGuarded_eq h]
      rcases s.nextFromLine with ⟨failure | found, after⟩
      · rfl
      · cases found <;> rfl
    · have hreads := s.cursor.length_le_pending input.stream.chunks
      rw [Cursor.nextGuarded_eq hpending (by omega)]
      rfl

/-- Every round but the last takes something off the source. -/
lemma collectGuarded_eq (hsteps : s.pending < steps) (h : s.pending < rounds) :
    s.collectGuarded steps rounds = .ok s.collect := by
  induction rounds generalizing s with
  | zero => omega
  | succ rounds ih =>
    rw [collectGuarded, nextGuarded_eq hsteps, collect_eq]
    simp only [Except.bind]
    rcases hnext : s.next with ⟨failure | t, after⟩
    · rfl
    · dsimp only
      split_ifs with hend
      · rfl
      · have hless := pending_of_next hnext hend
        rw [ih (by omega) (by omega)]
        rfl

lemma tokenizeGuarded_eq (h : s.pending < steps) : s.tokenizeGuarded steps = .ok s.tokenize := by
  rw [tokenizeGuarded, collectGuarded_eq h h, tokenize]
  rcases s.collect with ⟨failure | ts, after⟩ <;> rfl

/-- Every round but the last takes something off the line. -/
lemma drainLineGuarded_eq (hsteps : s.pending < steps) (h : s.pending < rounds) :
    s.drainLineGuarded steps rounds = .ok s.drainLine := by
  induction rounds generalizing s with
  | zero => omega
  | succ rounds ih =>
    rw [drainLineGuarded, nextFromLineGuarded_eq hsteps, drainLine_eq]
    simp only [Except.bind]
    rcases hnext : s.nextFromLine with ⟨failure | found, after⟩
    · rfl
    · cases found with
      | none => rfl
      | some t =>
        have hless := pending_of_nextFromLine hnext
        dsimp only
        rw [ih (by omega) (by omega)]
        rfl

/-! ## What a run gives -/

/-- On a line there are tokens, or an error of the source. -/
lemma drainLine_cases (s : Session) :
    (∃ ts, s.drainLine.1 = .ok ts) ∨ ∃ e, s.drainLine.1 = .error (.lexical e) := by
  cases hdrain : s.cursor.drain s.rules with
  | error e => exact Or.inr ⟨e, drainLine_of_fails (Cursor.drain_eq_error_iff.1 hdrain) rfl rfl⟩
  | ok p =>
    obtain ⟨after, hline, -⟩ := drainLine_of_drains (Cursor.drain_eq_ok_iff.1 hdrain) rfl rfl
    exact Or.inl ⟨p.1, by rw [hline]⟩

/-- In an open stream there are tokens up to the one that ends the source, or an error of the
source. -/
lemma tokenize_cases {input : Input} (hinput : s.input = some input)
    (hopen : input.stream.isClosed = false) :
    (∃ ts t, s.tokenize.1 = .ok (ts ++ [t]) ∧ t.kind = .endOfFile) ∨
      ∃ e, s.tokenize.1 = .error (.lexical e) := by
  rw [tokenize_fst, collect_eq_exhaust hinput hopen]
  cases s.cursor.exhaust s.rules input.marked input.stream.chunks with
  | error e => exact Or.inr ⟨e, rfl⟩
  | ok p =>
    obtain ⟨ts, last⟩ := p
    simp only [Reading.finish, Except.bind]
    cases hfinish : last.finish s.rules with
    | error e => exact Or.inr ⟨e, rfl⟩
    | ok t => exact Or.inl ⟨ts, t, rfl, Cursor.kind_of_finish hfinish⟩

/-- A token of the line makes the line shorter. -/
lemma length_of_nextFromLine {t : Token} {after : Session}
    (h : s.nextFromLine = (.ok (some t), after)) :
    after.cursor.rest.length < s.cursor.rest.length := by
  obtain ⟨hscan, hcursor, -⟩ := nextFromLine_eq_ok h
  rw [hcursor]
  exact Cursor.length_of_scan hscan

/-- A token of an open stream is cut off some line, and makes it shorter. -/
lemma exists_line_of_next {input : Input} (hinput : s.input = some input)
    (hopen : input.stream.isClosed = false) {t : Token} {after : Session}
    (h : s.next = (.ok t, after)) (ht : t.kind ≠ .endOfFile) :
    ∃ line : Cursor, (line.scan s.rules).found = .ok (some t) ∧
      after.cursor = (line.scan s.rules).cursor ∧ after.cursor.rest.length < line.rest.length := by
  obtain ⟨hfound, log, hafter⟩ := next_of_open hinput hopen
  rw [h] at hfound hafter
  cases hpull : (s.cursor.next s.rules input.marked input.stream.chunks).found with
  | error e =>
    rw [hpull] at hfound
    cases hfound
  | ok t' =>
    rw [hpull] at hfound
    obtain rfl := Except.ok.inj hfound
    obtain ⟨line, hscan, hcursor⟩ := Cursor.exists_scan_of_next hpull ht
    have hplace : after.cursor = (line.scan s.rules).cursor :=
      (congrArg Session.cursor hafter).trans hcursor
    exact ⟨line, hscan, hplace, hplace ▸ Cursor.length_of_scan hscan⟩

/-- **Every run comes to an end, without a breach.**  Let `steps` be greater than what is left to a
session, whatever its table, its options, its mark and its reads.  If no loop may take more rounds
than this, and every assumption on the way is checked, then reading the line at hand and reading an
open stream give what they give without these checks.  It is tokens, up to the one that ends the
source if there is a stream, or an error of the source.  And every token makes the line shorter that
it is cut off. -/
theorem guarded_total (s : Session) {steps : Nat} (h : s.pending < steps) :
    (s.drainLineGuarded steps steps = .ok s.drainLine ∧
      ((∃ ts, s.drainLine.1 = .ok ts) ∨ ∃ e, s.drainLine.1 = .error (.lexical e)) ∧
      ∀ t after, s.nextFromLine = (.ok (some t), after) →
        after.cursor.rest.length < s.cursor.rest.length) ∧
    ∀ input, s.input = some input → input.stream.isClosed = false →
      s.tokenizeGuarded steps = .ok s.tokenize ∧
      ((∃ ts t, s.tokenize.1 = .ok (ts ++ [t]) ∧ t.kind = .endOfFile) ∨
        ∃ e, s.tokenize.1 = .error (.lexical e)) ∧
      ∀ t after, s.next = (.ok t, after) → t.kind ≠ .endOfFile →
        ∃ line : Cursor, (line.scan s.rules).found = .ok (some t) ∧
          after.cursor = (line.scan s.rules).cursor ∧
          after.cursor.rest.length < line.rest.length := by
  refine ⟨⟨drainLineGuarded_eq h h, drainLine_cases s, ?_⟩, ?_⟩
  · intro t after hnext
    exact length_of_nextFromLine hnext
  · intro input hinput hopen
    refine ⟨tokenizeGuarded_eq h, tokenize_cases hinput hopen, ?_⟩
    intro t after hnext ht
    exact exists_line_of_next hinput hopen hnext ht

/-- A source in a text and in bytes, with a mark, an escape sequence, a nested comment and a range.
-/
theorem guarded_total_reads :
    ∃ (s : Session) (input : Input),
      create { stream := some (.ofReads [.text "\uFEFF'\\U0010FFFF' /+ /+ +/".toList,
        .bytes [0x2B, 0x2F, 0x31, 0x2E, 0x2E, 0x32]]), mark := .mark .utf8 } = .ok s ∧
      s.pending < 40 ∧ s.input = some input ∧ input.stream.isClosed = false ∧
      s.tokenizeGuarded 40 = .ok s.tokenize ∧
      s.tokenize.1.map (fun ts => ts.map fun t => t.text) =
        .ok ["'\\U0010FFFF'".toList, "1".toList, "..".toList, "2".toList, endText] := by
  let input : Input :=
    { stream := .ofReads [.text "\uFEFF'\\U0010FFFF' /+ /+ +/".toList,
        .bytes [0x2B, 0x2F, 0x31, 0x2E, 0x2E, 0x32]]
      owned := false
      marked := true }
  let s : Session :=
    { file := namelessSource, options := {}, table := Table.standard, input := some input,
      log := [.tableBuilt] }
  have hpending : s.pending < 40 := by decide
  have hrun := ((guarded_total s hpending).2 input rfl rfl).1
  exact ⟨s, input, rfl, hpending, rfl, rfl, hrun, by decide +kernel⟩

end Session

end ScriptLexer
