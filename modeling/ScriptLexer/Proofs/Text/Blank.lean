import Mathlib.Data.List.Basic
import Mathlib.Data.List.DropRight
import Mathlib.Data.List.TakeWhile
import ScriptLexer.Name
import ScriptLexer.Text.Blank

/-!
# Dropping blanks

What `trimStart` drops are blanks, and it stops in front of the first character that is none.  A
text *breaks* if a token in front of it cannot go on into it: it is empty or begins with a blank.
-/

namespace ScriptLexer

/-! ## What is not a blank -/

/-- The visible characters of ASCII are no blanks. -/
lemma isBlank_eq_false_of_ascii {c : Char} (hlow : 0x21 ≤ c.toNat) (hhigh : c.toNat ≤ 0x7E) :
    isBlank c = false := by
  have hranges : ∀ range ∈ blankRanges, range.2 < 0x21 ∨ 0x7E < range.1 := by decide
  simp only [isBlank, List.any_eq_false, Bool.and_eq_true, decide_eq_true_eq]
  intro range hrange
  have hout := hranges range hrange
  omega

lemma Name.toNat_of_isStart {c : Char} (h : Name.isStart c = true) :
    0x41 ≤ c.toNat ∧ c.toNat ≤ 0x7A := by
  simp only [isStart, Bool.or_eq_true, beq_iff_eq] at h
  rcases h with halpha | rfl
  · rcases (Bool.or_eq_true _ _).mp halpha with hupper | hlower
    · have hrange : 'A'.val ≤ c.val ∧ c.val ≤ 'Z'.val := of_decide_eq_true hupper
      have hlow : 0x41 ≤ c.toNat := UInt32.le_iff_toNat_le.1 hrange.1
      have hhigh : c.toNat ≤ 0x5A := UInt32.le_iff_toNat_le.1 hrange.2
      omega
    · obtain ⟨hlower, hupper⟩ := (Bool.and_eq_true _ _).mp hlower
      have hlow : 0x61 ≤ c.toNat := UInt32.le_iff_toNat_le.1 (of_decide_eq_true hlower)
      have hhigh : c.toNat ≤ 0x7A := UInt32.le_iff_toNat_le.1 (of_decide_eq_true hupper)
      omega
  · decide

lemma Name.toNat_of_isDigit {c : Char} (h : Name.isDigit c = true) :
    0x30 ≤ c.toNat ∧ c.toNat ≤ 0x39 := Char.isDigit_iff_toNat.1 h

lemma Name.toNat_of_isPart {c : Char} (h : Name.isPart c = true) :
    0x30 ≤ c.toNat ∧ c.toNat ≤ 0x7A := by
  rcases (Bool.or_eq_true _ _).mp h with hstart | hdigit
  · obtain ⟨hlow, hhigh⟩ := toNat_of_isStart hstart
    omega
  · obtain ⟨hlow, hhigh⟩ := toNat_of_isDigit hdigit
    omega

lemma isBlank_eq_false_of_isPart {c : Char} (h : Name.isPart c = true) : isBlank c = false := by
  obtain ⟨hlow, hhigh⟩ := Name.toNat_of_isPart h
  exact isBlank_eq_false_of_ascii (by omega) (by omega)

namespace Text

/-! ## Blanks at the start -/

/-- A text is some blanks and what is left without them. -/
lemma exists_blanks_append_trimStart (t : Text) :
    ∃ b, t = b ++ trimStart t ∧ ∀ c ∈ b, isBlank c = true :=
  ⟨t.takeWhile isBlank, List.takeWhile_append_dropWhile.symm, fun _ hc => List.mem_takeWhile_imp hc⟩

lemma trimStart_append_of_blanks {b : Text} (h : ∀ c ∈ b, isBlank c = true) (t : Text) :
    trimStart (b ++ t) = trimStart t :=
  List.dropWhile_append_of_pos h

lemma trimStart_of_head? {t : Text} (h : ∀ c, t.head? = some c → isBlank c = false) :
    trimStart t = t := by
  cases t with
  | nil => rfl
  | cons c t => exact List.dropWhile_cons_of_neg (by simp [h c rfl])

lemma trimStart_eq_nil_iff {t : Text} : trimStart t = [] ↔ ∀ c ∈ t, isBlank c = true :=
  List.dropWhile_eq_nil_iff

/-- Blanks are dropped as far as there are no other characters in front of them. -/
lemma trimStart_append (t t' : Text) :
    trimStart (t ++ t') = if trimStart t = [] then trimStart t' else trimStart t ++ t' := by
  unfold trimStart
  simp only [List.dropWhile_append, List.isEmpty_iff]

lemma isBlank_of_head?_trimStart {t : Text} {c : Char} (h : (trimStart t).head? = some c) :
    isBlank c = false := by
  have hnot := List.head?_dropWhile_not isBlank t
  rw [show t.dropWhile isBlank = trimStart t from rfl, h] at hnot
  exact hnot

lemma trimStart_trimStart (t : Text) : trimStart (trimStart t) = trimStart t :=
  List.dropWhile_idempotent isBlank t

/-- Blanks can be dropped before more text is put behind. -/
lemma trimStart_trimStart_append (t t' : Text) :
    trimStart (trimStart t ++ t') = trimStart (t ++ t') := by
  rw [trimStart_append, trimStart_append, trimStart_trimStart]

/-! ## Blanks at the end -/

lemma trimEnd_append_of_blanks {b : Text} (h : ∀ c ∈ b, isBlank c = true) (t : Text) :
    trimEnd (t ++ b) = trimEnd t := by
  unfold trimEnd
  rw [List.reverse_append, trimStart_append_of_blanks (by simpa using h)]

lemma trimEnd_of_getLast? {t : Text} (h : ∀ c, t.getLast? = some c → isBlank c = false) :
    trimEnd t = t := by
  unfold trimEnd
  rw [trimStart_of_head? (by simpa using h), List.reverse_reverse]

/-- Blanks at the end are dropped together with those in front of them. -/
lemma trim_append_of_blanks {b : Text} (h : ∀ c ∈ b, isBlank c = true) (t : Text) :
    trim (t ++ b) = trim t := by
  unfold trim
  rw [trimStart_append]
  split_ifs with hnil
  · rw [hnil, trimStart_eq_nil_iff.2 h]
  · exact trimEnd_append_of_blanks h (trimStart t)

lemma isBlank_of_getLast?_trimEnd {t : Text} {c : Char} (h : (trimEnd t).getLast? = some c) :
    isBlank c = false := by
  refine isBlank_of_head?_trimStart (t := t.reverse) ?_
  simpa [trimEnd] using h

lemma trimEnd_trimEnd (t : Text) : trimEnd (trimEnd t) = trimEnd t :=
  trimEnd_of_getLast? fun _ hc => isBlank_of_getLast?_trimEnd hc

lemma trimEnd_eq_nil_iff {t : Text} : trimEnd t = [] ↔ ∀ c ∈ t, isBlank c = true := by
  simp [trimEnd, trimStart_eq_nil_iff]

/-- Blanks are dropped as far as there are no other characters behind them. -/
lemma trimEnd_append (t t' : Text) :
    trimEnd (t ++ t') = if trimEnd t' = [] then trimEnd t else t ++ trimEnd t' := by
  simp only [trimEnd, List.reverse_append, trimStart_append, List.reverse_eq_nil_iff]
  split_ifs
  · rfl
  · simp

lemma trimEnd_append_of_getLast? {t : Text} (h : ∀ c, t.getLast? = some c → isBlank c = false)
    (t' : Text) : trimEnd (t ++ t') = t ++ trimEnd t' := by
  rw [trimEnd_append]
  split_ifs with hnil
  · rw [hnil, List.append_nil, trimEnd_of_getLast? h]
  · rfl

lemma exists_trimEnd_append_blanks (t : Text) :
    ∃ b, t = trimEnd t ++ b ∧ ∀ c ∈ b, isBlank c = true := by
  obtain ⟨b, ht, hb⟩ := exists_blanks_append_trimStart t.reverse
  refine ⟨b.reverse, ?_, by simpa using hb⟩
  rw [trimEnd, ← List.reverse_append, ← ht, List.reverse_reverse]

/-- The first character stays unless all are dropped. -/
lemma head?_of_head?_trimEnd {t : Text} {c : Char} (h : (trimEnd t).head? = some c) :
    t.head? = some c := by
  obtain ⟨b, ht, -⟩ := exists_trimEnd_append_blanks t
  rw [ht, List.head?_append, h]
  rfl

/-- The order in which the ends are trimmed does not matter. -/
lemma trim_eq_trimStart_trimEnd (t : Text) : trim t = trimStart (trimEnd t) := by
  obtain ⟨b, ht, hb⟩ := exists_blanks_append_trimStart t
  have hend : trimEnd t = trimEnd (b ++ trimStart t) := by rw [← ht]
  rw [trimEnd_append] at hend
  unfold trim
  split_ifs at hend with hnil
  · rw [hnil, hend, trimEnd_eq_nil_iff.2 hb, trimStart_nil]
  · have hsolid : trimStart (trimEnd (trimStart t)) = trimEnd (trimStart t) :=
      trimStart_of_head? fun c hc => isBlank_of_head?_trimStart (head?_of_head?_trimEnd hc)
    rw [hend, trimStart_append_of_blanks hb, hsolid]

lemma trim_append_blanks_left {b : Text} (h : ∀ c ∈ b, isBlank c = true) (t : Text) :
    trim (b ++ t) = trim t := by
  unfold trim
  rw [trimStart_append_of_blanks h]

lemma trim_of_blanks {b : Text} (h : ∀ c ∈ b, isBlank c = true) : trim b = [] := by
  have hstart : trimStart b = [] := by simpa using trimStart_append_of_blanks h []
  unfold trim
  rw [hstart]
  rfl

/-! ## Solid texts -/

/-- A text that is not empty and has no blank at its ends. -/
structure Solid (t : Text) : Prop where
  ne_nil : t ≠ []
  head : ∀ c, t.head? = some c → isBlank c = false
  last : ∀ c, t.getLast? = some c → isBlank c = false

/-- A text without any blank is solid. -/
lemma Solid.of_forall {t : Text} (hne : t ≠ []) (h : ∀ c ∈ t, isBlank c = false) : Solid t where
  ne_nil := hne
  head c hc := h c (List.mem_of_mem_head? hc)
  last c hc := h c (List.mem_of_mem_getLast? hc)

lemma Solid.head_append {t : Text} (h : Solid t) (t' : Text) :
    ∀ c, (t ++ t').head? = some c → isBlank c = false := by
  intro c hc
  obtain ⟨a, r, rfl⟩ := List.exists_cons_of_ne_nil h.ne_nil
  exact h.head c (by simpa using hc)

/-- Only the ends of a text matter. -/
lemma Solid.append {t t' : Text} (h : Solid t) (h' : Solid t') (b : Text) :
    Solid (t ++ b ++ t') where
  ne_nil := by simp [h.ne_nil]
  head := by
    rw [List.append_assoc]
    exact h.head_append _
  last c hc := by
    rw [List.getLast?_append_of_ne_nil _ h'.ne_nil] at hc
    exact h'.last c hc

/-- Trimming drops the blanks around a solid text and nothing else. -/
lemma Solid.trim_eq {b t b' : Text} (h : Solid t) (hb : ∀ c ∈ b, isBlank c = true)
    (hb' : ∀ c ∈ b', isBlank c = true) : trim (b ++ t ++ b') = t := by
  unfold trim
  rw [List.append_assoc, trimStart_append_of_blanks hb, trimStart_of_head? (h.head_append b'),
    trimEnd_append_of_blanks hb', trimEnd_of_getLast? h.last]

/-! ## Breaks -/

/-- The text is empty or begins with a blank. -/
def Breaks (t : Text) : Prop := ∀ c, t.head? = some c → isBlank c = true

lemma breaks_nil : Breaks [] := by
  intro c hc
  simp at hc

lemma breaks_append {b : Text} (hb : ∀ c ∈ b, isBlank c = true) (hne : b ≠ []) (t : Text) :
    Breaks (b ++ t) := by
  intro c hc
  obtain ⟨a, r, rfl⟩ := List.exists_cons_of_ne_nil hne
  obtain rfl : a = c := by simpa using hc
  exact hb a List.mem_cons_self

lemma Breaks.head?_ne {t : Text} {c : Char} (h : t.Breaks) (hc : isBlank c = false) :
    t.head? ≠ some c := by
  intro hhead
  rw [h c hhead] at hc
  simp at hc

/-- A piece of a line with a break behind it looks as the line does, two characters far, unless the
break is the second of them. -/
lemma look_ahead {t line rest : Text} (hne : t ≠ []) (ht : t <+: line) (hrest : rest.Breaks) :
    (∃ c d u v, line = c :: d :: u ∧ t ++ rest = c :: d :: v) ∨
      ∃ (c : Char) (u v : Text), line = c :: u ∧ t ++ rest = c :: v ∧ v.Breaks := by
  obtain ⟨u, rfl⟩ := ht
  obtain ⟨c, t, rfl⟩ := List.exists_cons_of_ne_nil hne
  cases t with
  | nil => exact Or.inr ⟨c, u, rest, rfl, rfl, hrest⟩
  | cons d t => exact Or.inl ⟨c, d, t ++ u, t ++ rest, rfl, rfl⟩

/-- A line is nothing or ends with a blank, and then goes on.  What is left of it then is what was
left before and, behind a break, what has been added. -/
lemma exists_breaks_trim_append {t : Text} (h : ∀ c, t.getLast? = some c → isBlank c = true)
    (t' : Text) :
    ∃ v, v.Breaks ∧ trim (t ++ t') = trimStart (trim t ++ v) ∧ trimStart v = trim t' := by
  -- the blanks at the end of the line, or one in front of all that is added
  have hblanks : ∃ b, b ≠ [] ∧ (∀ c ∈ b, isBlank c = true) ∧
      trim (t ++ t') = trim (trimEnd t ++ (b ++ t')) := by
    obtain ⟨b, ht, hb⟩ := exists_trimEnd_append_blanks t
    by_cases hnil : b = []
    · have hempty : t = [] := by
        by_contra hne
        rw [hnil, List.append_nil] at ht
        have hlast := h _ (List.getLast?_eq_getLast_of_ne_nil hne)
        have hsolid := isBlank_of_getLast?_trimEnd (t := t) (c := t.getLast hne)
          (by rw [← ht]; exact List.getLast?_eq_getLast_of_ne_nil hne)
        rw [hlast] at hsolid
        simp at hsolid
      have hspace : ∀ c ∈ [' '], isBlank c = true := List.forall_mem_singleton.2 (by decide)
      refine ⟨[' '], by simp, hspace, ?_⟩
      rw [hempty]
      exact (trim_append_blanks_left hspace t').symm
    · refine ⟨b, hnil, hb, ?_⟩
      rw [← List.append_assoc, ← ht]
  obtain ⟨b, hne, hb, htrim⟩ := hblanks
  refine ⟨trimEnd (b ++ t'), ?_, ?_, ?_⟩
  · intro c hc
    exact breaks_append hb hne t' c (head?_of_head?_trimEnd hc)
  · rw [htrim, trim_eq_trimStart_trimEnd, trim_eq_trimStart_trimEnd, trimStart_trimStart_append,
      trimEnd_append]
    split_ifs with hnil
    · rw [hnil, List.append_nil, trimEnd_trimEnd]
    · rfl
  · rw [← trim_eq_trimStart_trimEnd, trim_append_blanks_left hb]

end Text

end ScriptLexer
