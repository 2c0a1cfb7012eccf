import ScriptLexer.Cursor.Next
import ScriptLexer.Proofs.Cursor.Scan

/-!
# The next token and the line at hand

A token that is left on the line is the next one of the source.  If there is none, the next line is
read, and what was left of the last line has no influence any more: a cursor at the end of its line
finds the end again and stays where it is.  `ReadsOn` are the lines that are passed over in this way.
-/

namespace ScriptLexer

/-- What asking for the next token gives and leaves, without the events on the way. -/
def Pull.outcome (p : Pull) : Except LexicalError Token × Cursor × List Chunk :=
  (p.found, p.cursor, p.chunks)

/-- Neither the end of the source was found nor a read that is not UTF-8. -/
def Pull.OnLine (p : Pull) : Prop :=
  (∀ t, p.found = .ok t → t.kind ≠ .endOfFile) ∧
    ∀ e, p.found = .error e →
      e.fault.kind ≠ .invalidEncoding ∧ e.fault.kind ≠ .unterminatedComment

namespace Chunk

/-- The reads that give lines, up to one that gives nothing. -/
def untilEnd (chunks : List Chunk) : List Chunk := chunks.takeWhile fun chunk => !chunk.isEmpty

/-- The reads from the first one on that gives nothing. -/
def fromEnd (chunks : List Chunk) : List Chunk := chunks.dropWhile fun chunk => !chunk.isEmpty

lemma untilEnd_cons_of_line {chunk : Chunk} {chunks : List Chunk} (h : chunk.isEmpty = false) :
    untilEnd (chunk :: chunks) = chunk :: untilEnd chunks := List.takeWhile_cons_of_pos (by simp [h])

lemma untilEnd_cons_of_empty {chunk : Chunk} {chunks : List Chunk} (h : chunk.isEmpty = true) :
    untilEnd (chunk :: chunks) = [] := List.takeWhile_cons_of_neg (by simp [h])

lemma isEmpty_of_mem_untilEnd {chunk : Chunk} {chunks : List Chunk} (h : chunk ∈ untilEnd chunks) :
    chunk.isEmpty = false := by
  simpa using List.mem_takeWhile_imp h

lemma fromEnd_cons_of_line {chunk : Chunk} {chunks : List Chunk} (h : chunk.isEmpty = false) :
    fromEnd (chunk :: chunks) = fromEnd chunks := List.dropWhile_cons_of_pos (by simp [h])

lemma fromEnd_cons_of_empty {chunk : Chunk} {chunks : List Chunk} (h : chunk.isEmpty = true) :
    fromEnd (chunk :: chunks) = chunk :: chunks := List.dropWhile_cons_of_neg (by simp [h])

end Chunk

namespace Cursor

variable {r : Rules} {c : Cursor}

/-- What is left of a line at its end has no influence on the next token. -/
lemma outcome_next_scan (marked : Bool) (chunks : List Chunk) (h : (scan r c).found = .ok none) :
    (next r marked (scan r c).cursor chunks).outcome = (next r marked c chunks).outcome := by
  cases chunks with
  | nil =>
    unfold next
    simp only [scan_scan_of_none h, h]
    rfl
  | cons chunk chunks =>
    unfold next
    simp only [scan_scan_of_none h, h]
    split
    · rfl
    · split <;> rfl

/-- A token on the line is the next one of the source, and nothing is read for it. -/
lemma next_of_scan_some (marked : Bool) (chunks : List Chunk) {t : Token}
    (h : (scan r c).found = .ok (some t)) :
    next r marked c chunks = ⟨.ok t, (scan r c).cursor, chunks, (scan r c).events⟩ := by
  cases chunks <;> unfold next <;> simp only [h]

/-- A fault on the line is the next thing found, and nothing is read for it. -/
lemma next_of_scan_error (marked : Bool) (chunks : List Chunk) {fault : Fault}
    (h : (scan r c).found = .error fault) :
    next r marked c chunks =
      ⟨.error ⟨fault, c.location r⟩, (scan r c).cursor, chunks, (scan r c).events⟩ := by
  cases chunks <;> unfold next <;> simp only [h]

lemma found_next_of_scan_error (marked : Bool) (chunks : List Chunk) {fault : Fault}
    (h : (scan r c).found = .error fault) :
    (next r marked c chunks).found = .error ⟨fault, c.location r⟩ := by
  rw [next_of_scan_error marked chunks h]

/-- If the line and the reads hold no more, the source ends. -/
lemma next_of_end {marked : Bool} {chunks : List Chunk} (h : (scan r c).found = .ok none)
    (hend : ∀ chunk ∈ chunks.head?, chunk.isEmpty = true) :
    next r marked c chunks =
      ⟨(scan r c).cursor.finish r, (scan r c).cursor, chunks.tail, (scan r c).events⟩ := by
  cases chunks with
  | nil =>
    rw [next]
    simp only [h]
    rfl
  | cons chunk chunks =>
    rw [next]
    simp only [h, hend chunk rfl, if_true]
    rfl

/-- A line that is not UTF-8 is a fault on the line that it would have been. -/
lemma found_next_of_decode_error {marked : Bool} {chunk : Chunk} {chunks : List Chunk}
    {fault : Utf8.Fault} (h : (scan r c).found = .ok none) (hchunk : chunk.isEmpty = false)
    (hdecode : chunk.decode = .error fault) :
    (next r marked c (chunk :: chunks)).found =
      .error ⟨.encoding fault, some ⟨r.file, (scan r c).cursor.lineNumber + 1⟩⟩ := by
  rw [next]
  simp only [h, hchunk, hdecode, Bool.false_eq_true, if_false]

/-- If the line holds no more, the next token is looked for on the line that is read. -/
lemma outcome_next_line {marked : Bool} {chunk : Chunk} {chunks : List Chunk} {line : Text}
    (h : (scan r c).found = .ok none) (hchunk : chunk.isEmpty = false)
    (hline : chunk.decode = .ok line) :
    (next r marked c (chunk :: chunks)).outcome =
      (next r marked ((scan r c).cursor.start ((scan r c).cursor.unmarked marked line))
        chunks).outcome := by
  rw [next]
  simp only [h, hchunk, hline, Bool.false_eq_true, if_false]
  rfl

/-- A token is cut off some line, in front of the first read that gives nothing; or the source ends
there and the token tells it. -/
lemma next_eq_ok {marked : Bool} {chunks : List Chunk} {t : Token}
    (h : (next r marked c chunks).found = .ok t) :
    (∃ line, (scan r line).found = .ok (some t) ∧
        (next r marked c chunks).cursor = (scan r line).cursor ∧
        Chunk.fromEnd (next r marked c chunks).chunks = Chunk.fromEnd chunks) ∨
      ∃ line, (scan r line).found = .ok none ∧
        (next r marked c chunks).cursor = (scan r line).cursor ∧
        (scan r line).cursor.finish r = .ok t ∧
        (next r marked c chunks).chunks = (Chunk.fromEnd chunks).tail := by
  -- a token on the line at hand is cut off this line
  have hline : ∀ {c : Cursor} {chunks : List Chunk}, (next r marked c chunks).found = .ok t →
      (scan r c).found = .ok none ∨ ∃ line, (scan r line).found = .ok (some t) ∧
        (next r marked c chunks).cursor = (scan r line).cursor ∧
        Chunk.fromEnd (next r marked c chunks).chunks = Chunk.fromEnd chunks := by
    intro c chunks h
    cases hscan : (scan r c).found with
    | error fault =>
      rw [found_next_of_scan_error marked chunks hscan] at h
      cases h
    | ok found =>
      cases found with
      | none => exact Or.inl rfl
      | some t' =>
        rw [next_of_scan_some marked chunks hscan] at h ⊢
        obtain rfl := Except.ok.inj h
        exact Or.inr ⟨c, hscan, rfl, rfl⟩
  induction chunks generalizing c with
  | nil =>
    rcases hline h with hscan | hdone
    · rw [next_of_end hscan (by simp)] at h ⊢
      exact Or.inr ⟨c, hscan, rfl, h, rfl⟩
    · exact Or.inl hdone
  | cons chunk chunks ih =>
    rcases hline h with hscan | hdone
    · cases hchunk : chunk.isEmpty with
      | true =>
        rw [next_of_end hscan (by simp [hchunk])] at h ⊢
        rw [Chunk.fromEnd_cons_of_empty hchunk]
        exact Or.inr ⟨c, hscan, rfl, h, rfl⟩
      | false =>
        cases hdecode : chunk.decode with
        | error fault =>
          rw [found_next_of_decode_error hscan hchunk hdecode] at h
          cases h
        | ok text =>
          have houtcome : (next r marked c (chunk :: chunks)).outcome = _ :=
            outcome_next_line hscan hchunk hdecode
          simp only [Pull.outcome, Prod.mk.injEq] at houtcome
          obtain ⟨hfound, hcursor, hchunks⟩ := houtcome
          rw [hfound] at h
          rw [hcursor, hchunks, Chunk.fromEnd_cons_of_line hchunk]
          exact ih h
    · exact Or.inl hdone

/-- A token that does not end the source is cut off some line. -/
lemma exists_scan_of_next {marked : Bool} {chunks : List Chunk} {t : Token}
    (h : (next r marked c chunks).found = .ok t) (ht : t.kind ≠ .endOfFile) :
    ∃ line, (scan r line).found = .ok (some t) ∧
      (next r marked c chunks).cursor = (scan r line).cursor := by
  rcases next_eq_ok h with ⟨line, hscan, hcursor, -⟩ | ⟨line, -, -, hfinish, -⟩
  · exact ⟨line, hscan, hcursor⟩
  · exact absurd (kind_of_finish hfinish) ht

/-! ## The end of a source -/

lemma finish_of_outside (h : c.mode = .outside) :
    c.finish r = .ok
      { kind := .endOfFile, text := endText, location := ⟨r.file, max c.lineNumber 1⟩,
        startsLine := true } := by
  simp only [finish, h, Comment.Mode.unclosed?]

lemma finish_of_ne_outside (h : c.mode ≠ .outside) :
    ∃ fault, fault.kind = .unterminatedComment ∧ c.finish r = .error ⟨fault, c.location r⟩ := by
  unfold finish
  cases hmode : c.mode with
  | outside => exact absurd hmode h
  | block => exact ⟨_, rfl, rfl⟩
  | nested extra => exact ⟨_, rfl, rfl⟩

lemma location_of_streaming (h : r.streaming = true) :
    c.location r = some ⟨r.file, c.lineNumber⟩ := if_pos h

/-! ## The line on which the search ends -/

/-- In search of the next token the cursor `c`, with the reads `chunks` to come, gets to `c'` with
`chunks'` to come. -/
inductive ReadsOn (r : Rules) (marked : Bool) : Cursor → List Chunk → Cursor → List Chunk → Prop
  /-- The line at hand. -/
  | here (c : Cursor) (chunks : List Chunk) : ReadsOn r marked c chunks c chunks
  /-- The line at hand holds no more, and the next one is read. -/
  | line {c c' : Cursor} {chunk : Chunk} {chunks chunks' : List Chunk} {line : Text} :
      (scan r c).found = .ok none → chunk.isEmpty = false → chunk.decode = .ok line →
        ReadsOn r marked ((scan r c).cursor.start ((scan r c).cursor.unmarked marked line)) chunks
          c' chunks' →
          ReadsOn r marked c (chunk :: chunks) c' chunks'

lemma ReadsOn.outcome_next {marked : Bool} {c' : Cursor} {chunks chunks' : List Chunk}
    (h : ReadsOn r marked c chunks c' chunks') :
    (next r marked c chunks).outcome = (next r marked c' chunks').outcome := by
  induction h with
  | here c chunks => rfl
  | line hscan hchunk hdecode _ ih => rw [outcome_next_line hscan hchunk hdecode, ih]

/-- The end of the source is told by a token, or by a comment that is open. -/
lemma not_onLine_of_finish {p : Pull} (h : p.found = c.finish r) : ¬ p.OnLine := by
  rintro ⟨htoken, hfault⟩
  by_cases hmode : c.mode = .outside
  · rw [finish_of_outside hmode] at h
    exact htoken _ h rfl
  · obtain ⟨fault, hkind, hfinish⟩ := finish_of_ne_outside (r := r) hmode
    exact (hfault _ (h.trans hfinish)).2 hkind

/-- On a line the search ends at one that holds more. -/
lemma exists_readsOn {marked : Bool} {chunks : List Chunk} (h : (next r marked c chunks).OnLine) :
    ∃ c' chunks', ReadsOn r marked c chunks c' chunks' ∧ (scan r c').found ≠ .ok none := by
  induction chunks generalizing c with
  | nil =>
    refine ⟨c, [], ReadsOn.here c [], fun hscan => ?_⟩
    rw [next_of_end hscan (by simp)] at h
    exact not_onLine_of_finish rfl h
  | cons chunk chunks ih =>
    by_cases hscan : (scan r c).found = .ok none
    · cases hchunk : chunk.isEmpty with
      | true =>
        rw [next_of_end hscan (by simp [hchunk])] at h
        exact absurd h (not_onLine_of_finish rfl)
      | false =>
        cases hdecode : chunk.decode with
        | error fault =>
          have hfound : (next r marked c (chunk :: chunks)).found = _ :=
            found_next_of_decode_error hscan hchunk hdecode
          exact absurd rfl (h.2 _ hfound).1
        | ok line =>
          have houtcome : (next r marked c (chunk :: chunks)).outcome = _ :=
            outcome_next_line hscan hchunk hdecode
          have hfound := congrArg Prod.fst houtcome
          obtain ⟨c', chunks', hreads, hstop⟩ :=
            ih (c := (scan r c).cursor.start ((scan r c).cursor.unmarked marked line))
              ⟨fun t ht => h.1 t (hfound.trans ht), fun e he => h.2 e (hfound.trans he)⟩
          exact ⟨c', chunks', ReadsOn.line hscan hchunk hdecode hreads, hstop⟩
    · exact ⟨c, chunk :: chunks, ReadsOn.here c _, hscan⟩

/-- What is found on a line is found by a scan of the line to which the cursor gets. -/
lemma exists_scan_of_onLine {marked : Bool} {chunks : List Chunk}
    (h : (next r marked c chunks).OnLine) :
    ∃ c', ReadsOn r marked c chunks c' (next r marked c chunks).chunks ∧
      (next r marked c chunks).cursor = (scan r c').cursor ∧
      ∀ e, (next r marked c chunks).found = .error e →
        (scan r c').found = .error e.fault ∧ e.location = c'.location r := by
  obtain ⟨c', chunks', hreads, hstop⟩ := exists_readsOn h
  have houtcome := hreads.outcome_next
  cases hscan : (scan r c').found with
  | error fault =>
    rw [next_of_scan_error marked chunks' hscan] at houtcome
    simp only [Pull.outcome, Prod.mk.injEq] at houtcome
    obtain ⟨hfound, hcursor, hchunks⟩ := houtcome
    rw [hchunks]
    refine ⟨c', hreads, hcursor, fun e he => ?_⟩
    obtain rfl := Except.error.inj (he.symm.trans hfound)
    exact ⟨hscan, rfl⟩
  | ok found =>
    cases found with
    | none => exact absurd hscan hstop
    | some t =>
      rw [next_of_scan_some marked chunks' hscan] at houtcome
      simp only [Pull.outcome, Prod.mk.injEq] at houtcome
      obtain ⟨hfound, hcursor, hchunks⟩ := houtcome
      rw [hchunks]
      refine ⟨c', hreads, hcursor, fun e he => ?_⟩
      rw [hfound] at he
      cases he

end Cursor

end ScriptLexer
