import Mathlib.Data.List.Basic
import ScriptLexer.Lexeme.Number
import ScriptLexer.Proofs.Text.Blank

/-!
# Where a number ends

A number is made of dots and name characters, so a break ends it.  A number that left a dot to the
operator behind it does not take in another dot when a break is put there.
-/

namespace ScriptLexer.Number

lemma doubleDot_cons_iff {c : Char} {t : Text} :
    doubleDot (c :: t) = true ↔ c = '.' ∧ t.head? = some '.' := by
  cases t <;> simp [doubleDot]

lemma isPart_of_isDigit {c : Char} (h : Name.isDigit c = true) : Name.isPart c = true := by
  simp [Name.isPart, h]

lemma isBlank_eq_false_of_continues {c : Char} (h : c = '.' ∨ Name.isPart c = true) :
    isBlank c = false := by
  rcases h with rfl | hpart
  · decide
  · exact isBlank_eq_false_of_isPart hpart

lemma begins_cons_of_isDigit {c : Char} (h : Name.isDigit c = true) (t : Text) :
    begins (c :: t) = true := by
  cases t <;> simp [begins, h]

lemma doubleDot_eq_false_of_begins {t : Text} (h : begins t = true) : doubleDot t = false := by
  cases t with
  | nil => rfl
  | cons c t =>
    refine Bool.eq_false_iff.2 fun hdots => ?_
    obtain ⟨rfl, hhead⟩ := doubleDot_cons_iff.1 hdots
    obtain ⟨t, rfl⟩ := List.head?_eq_some_iff.1 hhead
    exact absurd h (by simp [begins, Name.isDigit])

/-! ## The characters of a number -/

lemma mem_continuation {t : Text} {c : Char} (h : c ∈ continuation t) :
    c = '.' ∨ Name.isPart c = true := by
  fun_induction continuation t with
  | case1 => simp at h
  | case2 => simp at h
  | case3 d r _ hd ih =>
    rcases List.mem_cons.1 h with rfl | hmem
    · exact hd
    · exact ih hmem
  | case4 => simp at h

lemma mem_leading {t : Text} {c : Char} (hbegins : begins t = true) (h : c ∈ leading t) :
    c = '.' ∨ Name.isPart c = true := by
  cases t with
  | nil => simp [leading] at h
  | cons d t =>
    rw [leading, doubleDot_eq_false_of_begins hbegins] at h
    rcases List.mem_cons.1 h with rfl | hmem
    · -- a number begins with a digit or a dot
      cases t with
      | nil => exact Or.inr (isPart_of_isDigit hbegins)
      | cons e t =>
        simp only [begins, Bool.or_eq_true, Bool.and_eq_true, beq_iff_eq] at hbegins
        rcases hbegins with hdigit | ⟨hdot, -⟩
        · exact Or.inr (isPart_of_isDigit hdigit)
        · exact Or.inl hdot
    · exact mem_continuation hmem

lemma solid_leading {t : Text} (h : begins t = true) : (leading t).Solid :=
  Text.Solid.of_forall (leading_ne_nil h)
    fun _ hc => isBlank_eq_false_of_continues (mem_leading h hc)

/-! ## A break ends a number -/

lemma continuation_of_breaks {rest : Text} (hrest : rest.Breaks) : continuation rest = [] := by
  cases rest with
  | nil => rfl
  | cons c rest =>
    rw [continuation]
    split_ifs with hdots hc
    · rfl
    · have hblank := hrest c rfl
      rw [isBlank_eq_false_of_continues hc] at hblank
      simp at hblank
    · rfl

/-- What continues a number and has a break behind it begins with a dot only if the text did. -/
lemma head?_continuation_append {t rest : Text} (hrest : rest.Breaks)
    (h : (continuation t ++ rest).head? = some '.') : t.head? = some '.' := by
  obtain ⟨u, hu⟩ := continuation_isPrefix t
  cases hc : continuation t with
  | nil =>
    rw [hc, List.nil_append] at h
    exact absurd h (hrest.head?_ne (by decide))
  | cons c r =>
    rw [hc] at h hu
    rw [← hu]
    exact h

/-- A dot at the end of a number meets no second one in the break. -/
lemma doubleDot_append_of_breaks {c : Char} {t rest : Text} (hrest : rest.Breaks)
    (h : doubleDot (c :: t) = false) : doubleDot (c :: (continuation t ++ rest)) = false := by
  rw [← Bool.not_eq_true, doubleDot_cons_iff] at h ⊢
  rintro ⟨hdot, hhead⟩
  exact h ⟨hdot, head?_continuation_append hrest hhead⟩

lemma continuation_append_of_breaks {rest : Text} (hrest : rest.Breaks) (t : Text) :
    continuation (continuation t ++ rest) = continuation t := by
  fun_induction continuation t with
  | case1 => exact continuation_of_breaks hrest
  | case2 => exact continuation_of_breaks hrest
  | case3 c r hdots hc ih =>
    have hdots' := doubleDot_append_of_breaks hrest (Bool.eq_false_iff.2 hdots)
    rw [List.cons_append, continuation, hdots', if_neg Bool.false_ne_true, if_pos hc, ih]
  | case4 => exact continuation_of_breaks hrest

/-- A number is read again in front of a break. -/
lemma leading_append_of_breaks {t rest : Text} (h : begins t = true) (hrest : rest.Breaks) :
    leading (leading t ++ rest) = leading t := by
  cases t with
  | nil => simp [begins] at h
  | cons c t =>
    have hdots := doubleDot_eq_false_of_begins h
    have hdots' := doubleDot_append_of_breaks hrest hdots
    rw [leading, hdots, if_neg Bool.false_ne_true, List.cons_append, leading, hdots',
      if_neg Bool.false_ne_true, continuation_append_of_breaks hrest]

lemma lexeme_append_of_breaks {t rest : Text} (h : begins t = true) (hrest : rest.Breaks) :
    lexeme ((lexeme t).text ++ rest) = lexeme t := by
  show lexeme (leading t ++ rest) = _
  unfold lexeme
  rw [leading_append_of_breaks h hrest]

lemma begins_leading_append {t : Text} (h : begins t = true) (rest : Text) :
    begins (leading t ++ rest) = true := by
  cases t with
  | nil => simp [begins] at h
  | cons c t =>
    rw [leading, doubleDot_eq_false_of_begins h, if_neg Bool.false_ne_true, List.cons_append]
    by_cases hdigit : Name.isDigit c = true
    · exact begins_cons_of_isDigit hdigit _
    · -- the digit behind the dot belongs to the number
      cases t with
      | nil => exact absurd h hdigit
      | cons d t =>
        simp only [begins, Bool.or_eq_true, Bool.and_eq_true, beq_iff_eq, hdigit,
          Bool.false_eq_true, false_or] at h
        obtain ⟨rfl, hd⟩ := h
        have hdots : ¬ doubleDot (d :: t) = true := by
          rw [doubleDot_cons_iff]
          rintro ⟨rfl, -⟩
          exact absurd hd (by decide)
        rw [continuation, if_neg hdots, if_pos (Or.inr (isPart_of_isDigit hd))]
        simp [begins, hd]

/-- Where no number begins, none begins at a piece of the line in front of a break. -/
lemma begins_append_eq_false {t line rest : Text} (h : begins line = false) (hne : t ≠ [])
    (ht : t <+: line) (hrest : rest.Breaks) : begins (t ++ rest) = false := by
  rcases Text.look_ahead hne ht hrest with ⟨c, d, u, v, rfl, htext⟩ | ⟨c, u, v, rfl, htext, hv⟩
  · rw [htext]
    exact h
  · have hdigit : Name.isDigit c = false :=
      Bool.eq_false_iff.2 fun hc => by simp [begins_cons_of_isDigit hc] at h
    rw [htext]
    cases v with
    | nil => exact hdigit
    | cons b v =>
      have hb : Name.isDigit b = false := by
        refine Bool.eq_false_iff.2 fun hb => ?_
        exact hv.head?_ne (isBlank_eq_false_of_isPart (isPart_of_isDigit hb)) rfl
      simp [begins, hdigit, hb]

end ScriptLexer.Number
