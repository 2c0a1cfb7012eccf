import ScriptLexer.Proofs.Cursor.Reading

/-!
# What does not depend on the place

Two cursors *match* if the same is left of their lines and they are in the same comment mode.  The
numbers of their lines may differ, and whether their next tokens are the first of their lines.  From
such cursors the same lexemes are read, and the same faults are met (`exhaust_matches`).  So the
readings match as well: they differ in places only.
-/

namespace ScriptLexer

/-- The cursors differ in their places only. -/
structure Cursor.Matches (c c' : Cursor) : Prop where
  rest : c.rest = c'.rest
  mode : c.mode = c'.mode

/-- The scans differ in places only: both meet the same fault, both find the end of the line, or both
give the same lexeme. -/
def Scan.Matches (s s' : Scan) : Prop :=
  (∃ fault, s.found = .error fault ∧ s'.found = .error fault) ∨
  (s.found = .ok none ∧ s'.found = .ok none ∧ s.cursor.Matches s'.cursor) ∨
  ∃ t t', s.found = .ok (some t) ∧ s'.found = .ok (some t') ∧
    t.toLexeme = t'.toLexeme ∧ s.cursor.Matches s'.cursor

/-- The readings differ in places only. -/
inductive Reading.Matches : Reading → Reading → Prop
  /-- Both give the same lexemes. -/
  | ok {ts ts' : List Token} {c c' : Cursor} :
      ts.map Token.toLexeme = ts'.map Token.toLexeme → c.Matches c' →
        Reading.Matches (.ok (ts, c)) (.ok (ts', c'))
  /-- Both meet the same fault. -/
  | error {fault : Fault} {place place' : Option Location} :
      Reading.Matches (.error ⟨fault, place⟩) (.error ⟨fault, place'⟩)

namespace Reading.Matches

variable {x y : Reading}

/-- Tokens in front do not matter as long as they are the same lexemes. -/
lemma prepend {ts ts' : List Token} (h : x.Matches y)
    (hts : ts.map Token.toLexeme = ts'.map Token.toLexeme) :
    Reading.Matches (x.map fun (us, c) => (ts ++ us, c)) (y.map fun (us, c) => (ts' ++ us, c)) := by
  cases h with
  | error => exact Matches.error
  | ok hus hc => exact Matches.ok (by simp [hts, hus]) hc

/-- Readings that match, and go on in ways that match, match in the end. -/
lemma andThen {f g : Cursor → Reading} (h : x.Matches y)
    (hnext : ∀ c c', c.Matches c' → (f c).Matches (g c')) : (x.andThen f).Matches (y.andThen g) := by
  cases h with
  | error => exact Matches.error
  | @ok ts ts' c c' hts hc =>
    rw [andThen_ok, andThen_ok]
    exact (hnext c c' hc).prepend hts

/-- Sources of which the readings match give the same lexemes or end with the same fault. -/
lemma finish (h : x.Matches y) (r : Rules) :
    (∃ ts ts', x.finish r = .ok ts ∧ y.finish r = .ok ts' ∧
      ts.map Token.toLexeme = ts'.map Token.toLexeme) ∨
    ∃ fault place place', x.finish r = .error ⟨fault, place⟩ ∧
      y.finish r = .error ⟨fault, place'⟩ := by
  cases h with
  | error => exact Or.inr ⟨_, _, _, rfl, rfl⟩
  | @ok ts ts' c c' hts hc =>
    have hmode := hc.mode
    simp only [Reading.finish, Except.bind, Cursor.finish, ← hmode]
    cases c.mode.unclosed? with
    | some fault => exact Or.inr ⟨fault, _, _, rfl, rfl⟩
    | none => exact Or.inl ⟨_, _, rfl, rfl, by simp [hts]⟩

end Reading.Matches

namespace Cursor

variable {r : Rules} {c c' : Cursor}

/-- Text outside comments is scanned in the same way at another place. -/
lemma scanCode_matches (h : c.Matches c') : (scanCode r c).Matches (scanCode r c') := by
  obtain ⟨hrest, hmode⟩ := h
  by_cases hend : c.rest = [] ∨ isDirective r c.rest = true
  · obtain ⟨hfound, hcursor⟩ := scanCode_of_end hend
    rw [hrest] at hend
    obtain ⟨hfound', hcursor'⟩ := scanCode_of_end hend
    refine Or.inr (Or.inl ⟨hfound, hfound', ?_⟩)
    rw [hcursor, hcursor']
    exact ⟨rfl, hmode⟩
  · obtain ⟨hne, hdir⟩ := not_or.1 hend
    rw [Bool.not_eq_true] at hdir
    have hne' : c'.rest ≠ [] := hrest ▸ hne
    have hdir' : isDirective r c'.rest = false := hrest ▸ hdir
    cases hread : Lexeme.read r.table r.options.caselessOperators c.rest with
    | error fault =>
      rw [scanCode_of_read_error hne hdir hread, scanCode_of_read_error hne' hdir' (hrest ▸ hread)]
      exact Or.inl ⟨fault, rfl, rfl⟩
    | ok l =>
      rw [scanCode_of_read hne hdir hread, scanCode_of_read hne' hdir' (hrest ▸ hread)]
      refine Or.inr (Or.inr ⟨c.token r l, c'.token r l, rfl, rfl, rfl, ?_, hmode⟩)
      simp only [behind, hrest]

/-- A line is scanned in the same way at another place. -/
lemma scan_matches (h : c.Matches c') : (scan r c).Matches (scan r c') := by
  have hskip : Comment.skip c.mode c.rest = Comment.skip c'.mode c'.rest := by
    rw [h.mode, h.rest]
  cases houtcome : (Comment.skip c.mode c.rest).outcome with
  | stray form line =>
    exact Or.inl ⟨_, scan_of_stray houtcome, scan_of_stray (hskip ▸ houtcome)⟩
  | code rest =>
    have hbehind : (c.behindComments rest).Matches (c'.behindComments rest) :=
      ⟨rfl, by simp only [behindComments, hskip]⟩
    obtain ⟨hfound, hcursor⟩ := scan_of_code (r := r) houtcome
    obtain ⟨hfound', hcursor'⟩ := scan_of_code (r := r) (hskip ▸ houtcome)
    unfold Scan.Matches
    rw [hfound, hfound', hcursor, hcursor']
    exact scanCode_matches hbehind

/-- What is left of a line is read in the same way at another place. -/
lemma drain_matches (r : Rules) (h : c.Matches c') : (drain r c).Matches (drain r c') := by
  induction hsize : c.rest.length using Nat.strong_induction_on generalizing c c' with
  | _ size ih =>
    subst hsize
    rcases scan_matches (r := r) h with ⟨fault, hfound, hfound'⟩ | ⟨hfound, hfound', hcursor⟩ |
      ⟨t, t', hfound, hfound', ht, hcursor⟩
    · rw [drain_of_error hfound, drain_of_error hfound']
      exact Reading.Matches.error
    · rw [drain_of_none hfound, drain_of_none hfound']
      exact Reading.Matches.ok rfl hcursor
    · rw [drain_of_some hfound, drain_of_some hfound', Reading.andThen_ok, Reading.andThen_ok]
      exact (ih _ (length_of_scan hfound) hcursor rfl).prepend (by simp [ht])

/-- **The place does not matter.**  The reads to come are read in the same way at another place. -/
lemma exhaust_matches (h : c.Matches c') (chunks : List Chunk) :
    (exhaust r false c chunks).Matches (exhaust r false c' chunks) := by
  induction chunks generalizing c c' with
  | nil => exact drain_matches r h
  | cons chunk chunks ih =>
    rw [exhaust, exhaust]
    refine (drain_matches r h).andThen fun last last' hlast => ?_
    split_ifs
    · exact Reading.Matches.ok rfl hlast
    · cases chunk.decode with
      | error fault => exact Reading.Matches.error
      | ok line => exact ih ⟨rfl, hlast.mode⟩

end Cursor

end ScriptLexer
