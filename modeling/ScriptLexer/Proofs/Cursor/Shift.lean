import ScriptLexer.Proofs.Cursor.Reading

/-!
# Further down in a source

A cursor on some line is moved `n` lines down by `Cursor.shift`: nothing but the number of its line
changes.  From there the same is read, and everything is found `n` lines further down
(`exhaust_shift`).  This does not hold in front of the first line, since tokens found there count as
being on it, and since only there marks are dropped.
-/

namespace ScriptLexer

/-- The place `n` lines further down. -/
def Location.shift (l : Location) (n : Nat) : Location := { l with line := l.line + n }

/-- The same token, `n` lines further down. -/
def Token.shift (t : Token) (n : Nat) : Token := { t with location := t.location.shift n }

/-- The same error, `n` lines further down if it has a place. -/
def LexicalError.shift (e : LexicalError) (n : Nat) : LexicalError :=
  { e with location := e.location.map fun l => l.shift n }

/-- The same line, but with a number that is greater by `n`. -/
def Cursor.shift (c : Cursor) (n : Nat) : Cursor := { c with lineNumber := c.lineNumber + n }

/-- The result of asking for a token, `n` lines further down. -/
def Cursor.shiftFound (n : Nat) : Except Fault (Option Token) → Except Fault (Option Token) :=
  Except.map (Option.map fun t => t.shift n)

namespace Reading

/-- The same reading, `n` lines further down. -/
def shift (x : Reading) (n : Nat) : Reading :=
  match x with
  | .error e => .error (e.shift n)
  | .ok (ts, c) => .ok (ts.map fun t => t.shift n, c.shift n)

variable {x : Reading} {f g : Cursor → Reading} {n : Nat}

/-- If the next reading can be moved down at the cursor that is left, so can both together. -/
lemma andThen_shift (h : ∀ ts c, x = .ok (ts, c) → g (c.shift n) = (f c).shift n) :
    (x.shift n).andThen g = (x.andThen f).shift n := by
  cases x with
  | error e => rfl
  | ok p =>
    obtain ⟨ts, c⟩ := p
    simp only [shift, andThen_ok, h ts c rfl]
    cases f c with
    | error e => rfl
    | ok q => simp [Except.map]

end Reading

namespace Cursor

variable {r : Rules} {marked : Bool} {c last : Cursor} {ts : List Token} {n : Nat}

lemma location_shift (r : Rules) (c : Cursor) (n : Nat) :
    (c.shift n).location r = (c.location r).map fun l => l.shift n := by
  unfold location
  split_ifs with hstream
  · simp [shift, Location.shift]
  · rfl

/-- On a line, the place of a token is that of the cursor. -/
lemma max_lineNumber_shift (hline : 1 ≤ c.lineNumber) (n : Nat) :
    max ((c.shift n).lineNumber : Int) 1 = max (c.lineNumber : Int) 1 + n := by
  simp only [shift]
  omega

lemma token_shift (hline : 1 ≤ c.lineNumber) (l : Lexeme) :
    (c.shift n).token r l = (c.token r l).shift n := by
  simp only [token, max_lineNumber_shift hline]
  rfl

/-! ## One scan -/

lemma scanCode_shift (hline : 1 ≤ c.lineNumber) :
    (scanCode r (c.shift n)).found = shiftFound n (scanCode r c).found ∧
      (scanCode r (c.shift n)).cursor = (scanCode r c).cursor.shift n := by
  by_cases hend : c.rest = [] ∨ isDirective r c.rest = true
  · obtain ⟨hfound, hcursor⟩ := scanCode_of_end hend
    obtain ⟨hfound', hcursor'⟩ := scanCode_of_end (c := c.shift n) hend
    rw [hfound, hfound', hcursor, hcursor']
    exact ⟨rfl, rfl⟩
  · obtain ⟨hne, hdir⟩ := not_or.1 hend
    rw [Bool.not_eq_true] at hdir
    cases hread : Lexeme.read r.table r.options.caselessOperators c.rest with
    | error fault =>
      rw [scanCode_of_read_error hne hdir hread,
        scanCode_of_read_error (c := c.shift n) hne hdir hread]
      exact ⟨rfl, rfl⟩
    | ok l =>
      rw [scanCode_of_read hne hdir hread, scanCode_of_read (c := c.shift n) hne hdir hread,
        token_shift hline]
      exact ⟨rfl, rfl⟩

/-- The same is found on a line further down. -/
lemma scan_shift (hline : 1 ≤ c.lineNumber) :
    (scan r (c.shift n)).found = shiftFound n (scan r c).found ∧
      (scan r (c.shift n)).cursor = (scan r c).cursor.shift n := by
  cases hskip : (Comment.skip c.mode c.rest).outcome with
  | stray form line =>
    rw [scan_of_stray hskip, scan_of_stray (c := c.shift n) hskip, cursor_scan_of_stray hskip,
      cursor_scan_of_stray (c := c.shift n) hskip]
    exact ⟨rfl, rfl⟩
  | code rest =>
    obtain ⟨hfound, hcursor⟩ := scan_of_code (r := r) hskip
    obtain ⟨hfound', hcursor'⟩ := scan_of_code (r := r) (c := c.shift n) hskip
    rw [hfound, hfound', hcursor, hcursor']
    exact scanCode_shift (c := c.behindComments rest) hline

/-! ## Lines -/

/-- What is left of the line is read in the same way further down. -/
lemma drain_shift (hline : 1 ≤ c.lineNumber) : drain r (c.shift n) = (drain r c).shift n := by
  induction hsize : c.rest.length using Nat.strong_induction_on generalizing c with
  | _ size ih =>
    subst hsize
    obtain ⟨hfound, hcursor⟩ := scan_shift (r := r) (n := n) hline
    cases hscan : (scan r c).found with
    | error fault =>
      rw [hscan] at hfound
      rw [drain_of_error hscan, drain_of_error hfound, location_shift]
      rfl
    | ok found =>
      rw [hscan] at hfound
      cases found with
      | none =>
        rw [drain_of_none hscan, drain_of_none hfound, hcursor]
        rfl
      | some t =>
        have hline' : 1 ≤ (scan r c).cursor.lineNumber := by rwa [lineNumber_scan]
        rw [drain_of_some hscan, drain_of_some hfound, hcursor]
        refine Reading.andThen_shift (x := .ok ([t], (scan r c).cursor)) fun ts c' hc' => ?_
        obtain ⟨-, rfl⟩ := Prod.mk.inj (Except.ok.inj hc')
        exact ih _ (length_of_scan hscan) hline' rfl

/-- Behind the first line no mark is dropped. -/
lemma unmarked_of_pos (hline : 1 ≤ c.lineNumber) (marked : Bool) (line : Text) :
    c.unmarked marked line = line := by
  have hnumber : (c.lineNumber == 0) = false := by simp; omega
  simp [unmarked, hnumber]

lemma start_shift (c : Cursor) (n : Nat) (line : Text) :
    (c.shift n).start line = (c.start line).shift n := by
  simp only [start, shift, Nat.add_right_comm]

/-- **The same is read further down.**  What is left of the line, and the reads to come, give the
same tokens or the same error, `n` lines further down. -/
lemma exhaust_shift (hline : 1 ≤ c.lineNumber) (chunks : List Chunk) :
    exhaust r marked (c.shift n) chunks = (exhaust r marked c chunks).shift n := by
  induction chunks generalizing c with
  | nil => exact drain_shift hline
  | cons chunk chunks ih =>
    rw [exhaust, exhaust, drain_shift hline]
    refine Reading.andThen_shift fun ts last hdrain => ?_
    have hnumber : 1 ≤ last.lineNumber := by
      rwa [(drain_eq_ok_iff.1 hdrain).lineNumber_eq]
    split_ifs
    · rfl
    · cases chunk.decode with
      | error fault =>
        simp [Reading.shift, LexicalError.shift, Location.shift, shift, Int.add_right_comm]
      | ok line =>
        have hnumber' : 1 ≤ (last.shift n).lineNumber := Nat.le_add_right_of_le hnumber
        simp only [unmarked_of_pos hnumber, unmarked_of_pos hnumber']
        rw [start_shift]
        exact ih (Nat.le_add_left 1 _)

/-! ## The end of a source -/

lemma finish_shift (hline : 1 ≤ c.lineNumber) :
    (c.shift n).finish r =
      ((c.finish r).map fun t => t.shift n).mapError fun e => e.shift n := by
  have hmode : (c.shift n).mode = c.mode := rfl
  unfold finish
  rw [hmode, location_shift, max_lineNumber_shift hline]
  cases c.mode.unclosed? with
  | some fault => rfl
  | none => rfl

end Cursor

/-- A source of which the reading ends on some line, `n` lines further down. -/
lemma Reading.finish_shift {r : Rules} {x : Reading} {n : Nat}
    (hline : ∀ ts c, x = .ok (ts, c) → 1 ≤ c.lineNumber) :
    (x.shift n).finish r =
      ((x.finish r).map fun ts => ts.map fun t => t.shift n).mapError fun e => e.shift n := by
  cases x with
  | error e => rfl
  | ok p =>
    obtain ⟨ts, c⟩ := p
    simp only [shift, finish, Except.bind, Cursor.finish_shift (hline ts c rfl)]
    cases c.finish r <;> simp [Except.map, Except.mapError]

end ScriptLexer
