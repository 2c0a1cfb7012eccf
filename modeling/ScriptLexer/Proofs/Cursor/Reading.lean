import ScriptLexer.Proofs.Cursor.Next

/-!
# Reading lines to their ends

The tokens of a source are those of its lines, one line after the other.  A *reading* is the result
for some lines: the tokens and the cursor behind them, or the first error.  Readings are put
together by `Reading.andThen`, which goes on from the cursor that the first one leaves.

* `drain`: what is left of the line at hand.
* `exhaust`: the same, and then the reads to come.
* `readText`: the same for a text, which is read line by line.

Behind a line that was read to its end the cursor rests: reading it again gives nothing and leaves
it where it is.  Therefore the readings of two lists of reads can be put together
(`exhaust_append`).
-/

namespace ScriptLexer

/-- The tokens of some lines and the cursor behind them, or the first error. -/
abbrev Reading := Except LexicalError (List Token × Cursor)

namespace Reading

/-- Goes on from the cursor that a reading leaves. -/
def andThen (x : Reading) (f : Cursor → Reading) : Reading :=
  match x with
  | .error e => .error e
  | .ok (ts, c) => (f c).map fun (ts', c') => (ts ++ ts', c')

variable {x : Reading} {f g : Cursor → Reading}

@[simp] lemma andThen_error (e : LexicalError) : andThen (.error e) f = .error e := rfl

lemma andThen_ok (ts : List Token) (c : Cursor) :
    andThen (.ok (ts, c)) f = (f c).map fun (ts', c') => (ts ++ ts', c') := rfl

@[simp] lemma andThen_ok_nil (c : Cursor) : andThen (.ok ([], c)) f = f c := by
  rw [andThen_ok]
  cases f c with
  | error e => rfl
  | ok p => rfl

lemma andThen_ok_ok {ts ts' : List Token} {c c' : Cursor} (h : f c = .ok (ts', c')) :
    andThen (.ok (ts, c)) f = .ok (ts ++ ts', c') := by
  rw [andThen_ok, h]
  rfl

lemma andThen_assoc : (x.andThen f).andThen g = x.andThen fun c => (f c).andThen g := by
  cases x with
  | error e => rfl
  | ok p =>
    obtain ⟨ts, c⟩ := p
    simp only [andThen_ok]
    cases hf : f c with
    | error e => rfl
    | ok q =>
      obtain ⟨ts', c'⟩ := q
      simp only [Except.map, andThen_ok]
      cases g c' with
      | error e => rfl
      | ok q' => simp

/-- Two ways to go on that do the same at the cursor that is left. -/
lemma andThen_congr (h : ∀ ts c, x = .ok (ts, c) → f c = g c) : x.andThen f = x.andThen g := by
  cases x with
  | error e => rfl
  | ok p =>
    obtain ⟨ts, c⟩ := p
    simp only [andThen_ok, h ts c rfl]

lemma andThen_eq_ok {ts : List Token} {c : Cursor} (h : x.andThen f = .ok (ts, c)) :
    ∃ ts₁ c₁ ts₂, x = .ok (ts₁, c₁) ∧ f c₁ = .ok (ts₂, c) ∧ ts = ts₁ ++ ts₂ := by
  cases x with
  | error e => cases h
  | ok p =>
    obtain ⟨ts₁, c₁⟩ := p
    rw [andThen_ok] at h
    cases hf : f c₁ with
    | error e =>
      rw [hf] at h
      cases h
    | ok q =>
      obtain ⟨ts₂, c₂⟩ := q
      rw [hf] at h
      simp only [Except.map, Except.ok.injEq, Prod.mk.injEq] at h
      obtain ⟨rfl, rfl⟩ := h
      exact ⟨ts₁, c₁, ts₂, rfl, hf, rfl⟩

lemma andThen_ok_eq_error_iff {ts : List Token} {c : Cursor} {e : LexicalError} :
    andThen (.ok (ts, c)) f = .error e ↔ f c = .error e := by
  rw [andThen_ok]
  cases f c with
  | error e' => rfl
  | ok p => simp [Except.map]

/-- Two readings in a row, and then another one. -/
lemma andThen_ok_andThen_ok {ts ts' : List Token} {c c' : Cursor} :
    andThen (.ok (ts, c)) (fun _ => andThen (.ok (ts', c')) f) = andThen (.ok (ts ++ ts', c')) f := by
  rw [← andThen_assoc, andThen_ok_ok rfl]

/-- The tokens of a source whose lines have been read: at its end no comment may be open. -/
def finish (r : Rules) (x : Reading) : Except LexicalError (List Token) :=
  x.bind fun (ts, c) => (c.finish r).map fun t => ts ++ [t]

/-- A source without a fault has been read to its end, and no comment is open there. -/
lemma finish_eq_ok {r : Rules} {us : List Token} (h : x.finish r = .ok us) :
    ∃ ts c t, x = .ok (ts, c) ∧ c.mode = .outside ∧ us = ts ++ [t] := by
  cases x with
  | error e => cases h
  | ok p =>
    obtain ⟨ts, c⟩ := p
    simp only [finish, Except.bind, Cursor.finish] at h
    cases hmode : c.mode with
    | outside =>
      simp only [hmode, Comment.Mode.unclosed?] at h
      exact ⟨ts, c, _, rfl, hmode, (Except.ok.inj h).symm⟩
    | block =>
      simp only [hmode, Comment.Mode.unclosed?] at h
      cases h
    | nested extra =>
      simp only [hmode, Comment.Mode.unclosed?] at h
      cases h

/-- At the end of lines that have been read nothing is wrong but an open comment, and this is told
with the number of the last line. -/
lemma finish_ok_eq_error {r : Rules} {p : List Token × Cursor} {e : LexicalError}
    (h : finish r (.ok p) = .error e) :
    p.2.mode ≠ .outside ∧ e.fault.kind = .unterminatedComment ∧ e.location = p.2.location r := by
  obtain ⟨ts, c⟩ := p
  by_cases hmode : c.mode = .outside
  · simp only [finish, Except.bind, Cursor.finish_of_outside hmode] at h
    cases h
  · obtain ⟨fault, hkind, hfinish⟩ := Cursor.finish_of_ne_outside (r := r) hmode
    simp only [finish, Except.bind, hfinish] at h
    cases h
    exact ⟨hmode, hkind, rfl⟩

lemma finish_andThen_ok (r : Rules) (ts : List Token) (c : Cursor) :
    (andThen (.ok (ts, c)) f).finish r = ((f c).finish r).map (ts ++ ·) := by
  rw [andThen_ok]
  cases f c with
  | error e => rfl
  | ok p =>
    simp only [finish, Except.map, Except.bind]
    cases p.2.finish r <;> simp

end Reading

namespace Cursor

/-- Reads what is left of the line at hand. -/
def drain (r : Rules) (c : Cursor) : Reading :=
  match _h : (scan r c).found with
  | .error fault => .error ⟨fault, c.location r⟩
  | .ok none => .ok ([], (scan r c).cursor)
  | .ok (some t) => (drain r (scan r c).cursor).map fun (ts, last) => (t :: ts, last)
termination_by c.rest.length
decreasing_by exact length_of_scan _h

/-- Reads what is left of the line at hand, and then the reads to come up to one that gives
nothing. -/
def exhaust (r : Rules) (marked : Bool) (c : Cursor) : List Chunk → Reading
  | [] => drain r c
  | chunk :: chunks =>
    (drain r c).andThen fun last =>
      if chunk.isEmpty then .ok ([], last)
      else
        match chunk.decode with
        | .error fault => .error ⟨.encoding fault, some ⟨r.file, last.lineNumber + 1⟩⟩
        | .ok line => exhaust r marked (last.start (last.unmarked marked line)) chunks

/-- Reads the lines of a text. -/
def readText (r : Rules) (c : Cursor) (t : Text) : Reading :=
  exhaust r false c ((cutAfter '\n' t).map .text)

variable {r : Rules} {marked : Bool} {c last : Cursor} {ts : List Token}

/-! ## One line -/

lemma drain_of_error {fault : Fault} (h : (scan r c).found = .error fault) :
    drain r c = .error ⟨fault, c.location r⟩ := by
  rw [drain]
  split <;> simp_all

lemma drain_of_none (h : (scan r c).found = .ok none) :
    drain r c = .ok ([], (scan r c).cursor) := by
  rw [drain]
  split <;> simp_all

lemma drain_of_some {t : Token} (h : (scan r c).found = .ok (some t)) :
    drain r c = Reading.andThen (.ok ([t], (scan r c).cursor)) (drain r) := by
  rw [drain, Reading.andThen_ok]
  split <;> simp_all

/-- The line at hand is read to its end: it gives the tokens `ts` and leaves the cursor `last`. -/
inductive Drains (r : Rules) : Cursor → List Token → Cursor → Prop
  /-- The line holds no more. -/
  | done {c : Cursor} : (scan r c).found = .ok none → Drains r c [] (scan r c).cursor
  /-- One token, then the others. -/
  | token {c last : Cursor} {t : Token} {ts : List Token} :
      (scan r c).found = .ok (some t) → Drains r (scan r c).cursor ts last →
        Drains r c (t :: ts) last

lemma Drains.of_drain (h : drain r c = .ok (ts, last)) : Drains r c ts last := by
  fun_induction drain r c generalizing ts last with
  | case1 => simp at h
  | case2 c hscan =>
    simp only [Except.ok.injEq, Prod.mk.injEq] at h
    obtain ⟨rfl, rfl⟩ := h
    exact Drains.done hscan
  | case3 c t hscan ih =>
    cases hrest : drain r (scan r c).cursor with
    | error e =>
      rw [hrest] at h
      cases h
    | ok p =>
      rw [hrest] at h
      simp only [Except.map, Except.ok.injEq, Prod.mk.injEq] at h
      obtain ⟨rfl, rfl⟩ := h
      exact Drains.token hscan (ih hrest)

lemma Drains.drain_eq (h : Drains r c ts last) : drain r c = .ok (ts, last) := by
  induction h with
  | done hscan => exact drain_of_none hscan
  | token hscan _ ih => rw [drain_of_some hscan, Reading.andThen_ok_ok ih, List.singleton_append]

/-- Reading the line succeeds exactly on such a run. -/
lemma drain_eq_ok_iff : drain r c = .ok (ts, last) ↔ Drains r c ts last :=
  ⟨Drains.of_drain, Drains.drain_eq⟩

/-- The line at hand is read up to a fault, and the error is `e`. -/
inductive Fails (r : Rules) : Cursor → LexicalError → Prop
  /-- The fault is the next thing found. -/
  | fault {c : Cursor} {fault : Fault} :
      (scan r c).found = .error fault → Fails r c ⟨fault, c.location r⟩
  /-- One token, then the fault behind it. -/
  | token {c : Cursor} {t : Token} {e : LexicalError} :
      (scan r c).found = .ok (some t) → Fails r (scan r c).cursor e → Fails r c e

lemma Fails.of_drain {e : LexicalError} (h : drain r c = .error e) : Fails r c e := by
  fun_induction drain r c with
  | case1 c fault hscan =>
    obtain rfl := Except.error.inj h
    exact Fails.fault hscan
  | case2 => simp at h
  | case3 c t hscan ih =>
    cases hrest : drain r (scan r c).cursor with
    | error e' =>
      rw [hrest] at h
      obtain rfl := Except.error.inj h
      exact Fails.token hscan (ih hrest)
    | ok p =>
      rw [hrest] at h
      cases h

lemma Fails.drain_eq {e : LexicalError} (h : Fails r c e) : drain r c = .error e := by
  induction h with
  | fault hscan => exact drain_of_error hscan
  | token hscan _ ih => rw [drain_of_some hscan, Reading.andThen_ok_eq_error_iff, ih]

/-- Reading the line fails exactly on such a run. -/
lemma drain_eq_error_iff {e : LexicalError} : drain r c = .error e ↔ Fails r c e :=
  ⟨Fails.of_drain, Fails.drain_eq⟩

/-- Behind a line that was read to its end there is nothing, and the cursor stays. -/
lemma Drains.scan_last (h : Drains r c ts last) : scan r last = ⟨.ok none, last, []⟩ := by
  induction h with
  | done hscan => exact scan_scan_of_none hscan
  | token _ _ ih => exact ih

lemma Drains.drain_last (h : Drains r c ts last) : drain r last = .ok ([], last) := by
  have hscan := h.scan_last
  rw [drain_of_none (by rw [hscan]), hscan]

/-- Behind comments that end the line the cursor rests. -/
lemma drain_of_reached_nil {m : Comment.Mode}
    (h : (Comment.skip c.mode c.rest).reached = (.code [], m)) :
    drain r c = .ok ([], { c with rest := [], mode := m }) := by
  obtain ⟨hfound, hcursor⟩ := scan_of_reached (r := r) h
  obtain ⟨hend, hlast⟩ := scanCode_of_end (r := r) (c := { c with rest := [], mode := m })
    (Or.inl rfl)
  rw [drain_of_none (hfound.trans hend), hcursor, hlast]

/-- A line of which nothing is left is at its end. -/
lemma drain_of_nil (h : c.rest = []) : drain r c = .ok ([], c) := by
  have hreached : (Comment.skip c.mode c.rest).reached = (.code [], c.mode) := by
    rw [h, Comment.skip_nil]
    rfl
  rw [drain_of_reached_nil hreached, ← h]

/-- Only what is left behind the comments matters, and the mode there. -/
lemma drain_congr {c' : Cursor} (hline : c.lineNumber = c'.lineNumber)
    (hstart : c.pendingStart = c'.pendingStart)
    (hreached : (Comment.skip c.mode c.rest).reached = (Comment.skip c'.mode c'.rest).reached) :
    drain r c = drain r c' := by
  have hplace : c.location r = c'.location r := by simp only [location, hline]
  obtain ⟨houtcome, hmode⟩ := Prod.mk.inj hreached
  cases hskip : (Comment.skip c.mode c.rest).outcome with
  | stray form line =>
    rw [drain_of_error (scan_of_stray hskip), drain_of_error (scan_of_stray (houtcome ▸ hskip)),
      hplace]
  | code rest =>
    have hbehind : c.behindComments rest = c'.behindComments rest := by
      simp only [behindComments, hmode, hline, hstart]
    obtain ⟨hfound, hcursor⟩ := scan_of_code (r := r) hskip
    obtain ⟨hfound', hcursor'⟩ := scan_of_code (r := r) (houtcome ▸ hskip)
    rw [hbehind, ← hfound'] at hfound
    rw [hbehind, ← hcursor'] at hcursor
    cases hscan : (scan r c').found with
    | error fault => rw [drain_of_error (hfound.trans hscan), drain_of_error hscan, hplace]
    | ok found =>
      cases found with
      | none => rw [drain_of_none (hfound.trans hscan), drain_of_none hscan, hcursor]
      | some t => rw [drain_of_some (hfound.trans hscan), drain_of_some hscan, hcursor]

lemma Drains.rest_last (h : Drains r c ts last) : last.rest = [] := by
  induction h with
  | done hscan =>
    obtain ⟨code, -, -, hcursor⟩ := scan_eq_none hscan
    rw [hcursor]
    rfl
  | token _ _ ih => exact ih

/-! ## The number of the line, and the class of a fault -/

lemma Drains.lineNumber_eq (h : Drains r c ts last) : last.lineNumber = c.lineNumber := by
  induction h with
  | done _ => exact lineNumber_scan r _
  | token _ _ ih => exact ih.trans (lineNumber_scan r _)

lemma Fails.location_eq {e : LexicalError} (h : Fails r c e) : e.location = c.location r := by
  induction h with
  | fault _ => rfl
  | token _ _ ih =>
    rw [ih]
    simp only [location, lineNumber_scan]

/-- What is wrong is found by some scan. -/
lemma Fails.kind_ne {e : LexicalError} (h : Fails r c e) :
    e.fault.kind ≠ .invalidEncoding ∧ e.fault.kind ≠ .unterminatedComment := by
  induction h with
  | fault hscan => exact kind_of_scan_error hscan
  | token _ _ ih => exact ih

/-! ## Several reads -/

@[simp] lemma exhaust_nil : exhaust r marked c [] = drain r c := rfl

/-- The line feed behind a line is dropped. -/
lemma start_append_lineFeed (c : Cursor) (line : Text) : c.start (line ++ ['\n']) = c.start line := by
  have hblank : ∀ a ∈ ['\n'], isBlank a = true := List.forall_mem_singleton.2 (by decide)
  simp only [start, Text.trim_append_of_blanks hblank]

/-- A line of text is read behind the line at hand. -/
lemma exhaust_text_cons {line : Text} (hline : line ≠ []) (chunks : List Chunk) :
    exhaust r marked c (.text line :: chunks) =
      (drain r c).andThen fun last =>
        exhaust r marked (last.start (last.unmarked marked line)) chunks := by
  have hchunk : (Chunk.text line).isEmpty = false := by simpa [Chunk.isEmpty] using hline
  rw [exhaust]
  simp only [hchunk, Chunk.decode, Bool.false_eq_true, if_false]

lemma exhaust_congr {c' : Cursor} (h : drain r c = drain r c') (chunks : List Chunk) :
    exhaust r marked c chunks = exhaust r marked c' chunks := by
  cases chunks <;> simp only [exhaust, h]

/-- Behind a line that was read to its end only the reads to come count. -/
lemma exhaust_andThen (chunks : List Chunk) :
    ((drain r c).andThen fun last => exhaust r marked last chunks) = exhaust r marked c chunks := by
  cases chunks with
  | nil =>
    cases hdrain : drain r c with
    | error e => simp [hdrain]
    | ok p =>
      have hlast := (drain_eq_ok_iff.1 hdrain).drain_last
      simp only [exhaust_nil]
      rw [Reading.andThen_ok_ok hlast, hdrain, List.append_nil]
  | cons chunk chunks =>
    rw [exhaust]
    refine Reading.andThen_congr fun ts last hdrain => ?_
    rw [exhaust, (drain_eq_ok_iff.1 hdrain).drain_last, Reading.andThen_ok_nil]

/-- Reads without an error: the line at hand, and then an empty read, or a line and the reads behind
it. -/
lemma exhaust_cons_eq_ok {chunk : Chunk} {chunks : List Chunk}
    (h : exhaust r marked c (chunk :: chunks) = .ok (ts, last)) :
    (chunk.isEmpty = true ∧ drain r c = .ok (ts, last)) ∨
      ∃ ts₁ c₁ line ts₂, chunk.isEmpty = false ∧ drain r c = .ok (ts₁, c₁) ∧
        chunk.decode = .ok line ∧
        exhaust r marked (c₁.start (c₁.unmarked marked line)) chunks = .ok (ts₂, last) ∧
        ts = ts₁ ++ ts₂ := by
  rw [exhaust] at h
  obtain ⟨ts₁, c₁, ts₂, hfirst, hlater, rfl⟩ := Reading.andThen_eq_ok h
  cases hchunk : chunk.isEmpty with
  | true =>
    simp only [hchunk, if_true, Except.ok.injEq, Prod.mk.injEq] at hlater
    obtain ⟨rfl, rfl⟩ := hlater
    exact Or.inl ⟨rfl, by rw [hfirst, List.append_nil]⟩
  | false =>
    simp only [hchunk, Bool.false_eq_true, if_false] at hlater
    cases hdecode : chunk.decode with
    | error fault => simp [hdecode] at hlater
    | ok line =>
      rw [hdecode] at hlater
      exact Or.inr ⟨ts₁, c₁, line, ts₂, rfl, hfirst, rfl, hlater, rfl⟩

/-- Behind a line that was read to its end, the next line is started and read. -/
lemma exhaust_cons_of_decode {chunk : Chunk} {line : Text} (hrest : drain r c = .ok ([], c))
    (hchunk : chunk.isEmpty = false) (hdecode : chunk.decode = .ok line) (chunks : List Chunk) :
    exhaust r marked c (chunk :: chunks) =
      (drain r (c.start (c.unmarked marked line))).andThen fun last =>
        exhaust r marked last chunks := by
  rw [exhaust, hrest, Reading.andThen_ok_nil]
  simp only [hchunk, hdecode, Bool.false_eq_true, if_false]
  rw [exhaust_andThen]

/-- A read that is not UTF-8 is a fault on the line that it would have been. -/
lemma exhaust_cons_of_decode_error {chunk : Chunk} {fault : Utf8.Fault}
    (hrest : drain r c = .ok ([], c)) (hchunk : chunk.isEmpty = false)
    (hdecode : chunk.decode = .error fault) (chunks : List Chunk) :
    exhaust r marked c (chunk :: chunks) =
      .error ⟨.encoding fault, some ⟨r.file, c.lineNumber + 1⟩⟩ := by
  rw [exhaust, hrest, Reading.andThen_ok_nil]
  simp only [hchunk, hdecode, Bool.false_eq_true, if_false]

/-- An error is one of some read, behind reads without any: the read is not UTF-8, or there is a
fault on its line. -/
lemma exists_chunk_of_exhaust_error {chunks : List Chunk} {e : LexicalError}
    (hrest : drain r c = .ok ([], c)) (h : exhaust r marked c chunks = .error e) :
    ∃ before chunk behind ts last, chunks = before ++ chunk :: behind ∧
      exhaust r marked c before = .ok (ts, last) ∧
      ((∃ fault, chunk.decode = .error fault ∧
          e = ⟨.encoding fault, some ⟨r.file, last.lineNumber + 1⟩⟩) ∨
        ∃ line, chunk.decode = .ok line ∧
          drain r (last.start (last.unmarked marked line)) = .error e) := by
  induction chunks generalizing c with
  | nil =>
    rw [exhaust_nil, hrest] at h
    cases h
  | cons chunk chunks ih =>
    cases hchunk : chunk.isEmpty with
    | true =>
      rw [exhaust, hrest, Reading.andThen_ok_nil, if_pos hchunk] at h
      cases h
    | false =>
      cases hdecode : chunk.decode with
      | error fault =>
        rw [exhaust_cons_of_decode_error hrest hchunk hdecode] at h
        exact ⟨[], chunk, chunks, [], c, rfl, hrest,
          Or.inl ⟨fault, hdecode, (Except.error.inj h).symm⟩⟩
      | ok line =>
        rw [exhaust_cons_of_decode hrest hchunk hdecode] at h
        cases hdrain : drain r (c.start (c.unmarked marked line)) with
        | error e' =>
          rw [hdrain] at h
          obtain rfl := Except.error.inj h
          exact ⟨[], chunk, chunks, [], c, rfl, hrest, Or.inr ⟨line, hdecode, hdrain⟩⟩
        | ok p =>
          obtain ⟨ts₁, c₁⟩ := p
          rw [hdrain, Reading.andThen_ok_eq_error_iff] at h
          obtain ⟨before, chunk', behind, ts₂, last, rfl, hbefore, hfault⟩ :=
            ih (drain_eq_ok_iff.1 hdrain).drain_last h
          refine ⟨chunk :: before, chunk', behind, ts₁ ++ ts₂, last, rfl, ?_, hfault⟩
          rw [exhaust_cons_of_decode hrest hchunk hdecode, hdrain, Reading.andThen_ok_ok hbefore]

/-- What follows a read that gives nothing is not looked at. -/
lemma exhaust_untilEnd (chunks : List Chunk) :
    exhaust r marked c (Chunk.untilEnd chunks) = exhaust r marked c chunks := by
  induction chunks generalizing c with
  | nil => rfl
  | cons chunk chunks ih =>
    cases hchunk : chunk.isEmpty with
    | true =>
      rw [Chunk.untilEnd_cons_of_empty hchunk, exhaust_nil, exhaust]
      simp only [hchunk, if_true]
      cases drain r c with
      | error e => rfl
      | ok p => rw [Reading.andThen_ok_ok rfl, List.append_nil]
    | false =>
      rw [Chunk.untilEnd_cons_of_line hchunk, exhaust, exhaust]
      simp only [ih]

/-- Behind all reads the cursor rests. -/
lemma drain_of_exhaust_eq_ok {chunks : List Chunk}
    (h : exhaust r marked c chunks = .ok (ts, last)) : drain r last = .ok ([], last) := by
  induction chunks generalizing c ts with
  | nil => exact (drain_eq_ok_iff.1 h).drain_last
  | cons chunk chunks ih =>
    rcases exhaust_cons_eq_ok h with ⟨-, hdrain⟩ | ⟨ts₁, c₁, line, ts₂, -, -, -, hlater, -⟩
    · exact (drain_eq_ok_iff.1 hdrain).drain_last
    · exact ih hlater

/-- Every read that gives a line is counted. -/
lemma lineNumber_of_exhaust_eq_ok {chunks : List Chunk}
    (hchunks : ∀ chunk ∈ chunks, chunk.isEmpty = false)
    (h : exhaust r marked c chunks = .ok (ts, last)) :
    last.lineNumber = c.lineNumber + chunks.length := by
  induction chunks generalizing c ts with
  | nil => exact (drain_eq_ok_iff.1 h).lineNumber_eq
  | cons chunk chunks ih =>
    obtain ⟨hchunk, hchunks⟩ := List.forall_mem_cons.1 hchunks
    rcases exhaust_cons_eq_ok h with ⟨hempty, -⟩ | ⟨ts₁, c₁, line, ts₂, -, hdrain, -, hlater, -⟩
    · rw [hchunk] at hempty
      cases hempty
    · have hnumber : c₁.lineNumber = c.lineNumber := (drain_eq_ok_iff.1 hdrain).lineNumber_eq
      have hstart : ∀ line, (c₁.start line).lineNumber = c₁.lineNumber + 1 := fun _ => rfl
      rw [ih hchunks hlater, hstart, hnumber, List.length_cons]
      omega

/-- Reads of which none is empty, and then others. -/
lemma exhaust_append {chunks : List Chunk} (h : ∀ chunk ∈ chunks, chunk.isEmpty = false)
    (chunks' : List Chunk) :
    exhaust r marked c (chunks ++ chunks') =
      (exhaust r marked c chunks).andThen fun last => exhaust r marked last chunks' := by
  induction chunks generalizing c with
  | nil => rw [List.nil_append, exhaust_nil, exhaust_andThen]
  | cons chunk chunks ih =>
    obtain ⟨hchunk, hchunks⟩ := List.forall_mem_cons.1 h
    rw [List.cons_append, exhaust, exhaust, Reading.andThen_assoc]
    simp only [hchunk, Bool.false_eq_true, if_false]
    refine Reading.andThen_congr fun ts last _ => ?_
    cases chunk.decode with
    | error fault => rfl
    | ok line => exact ih hchunks

end Cursor

end ScriptLexer
