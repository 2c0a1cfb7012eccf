import Mathlib.Data.List.Induction
import ScriptLexer.Source.Stream

/-!
# The lines of a text

A list is cut behind every occurrence of a mark; for a text the mark is the line feed.  The parts
together are the list, and no part is empty.  What stands in front of the first mark belongs to the
first part (`cutAfter_append`), and behind a mark a new part begins (`cutAfter_append_of_ends`).
-/

namespace ScriptLexer

variable {α : Type} [DecidableEq α] {mark : α} {l l' : List α}

lemma ne_nil_of_mem_cutAfter {part : List α} (h : part ∈ cutAfter mark l) : part ≠ [] := by
  fun_induction cutAfter mark l with
  | case1 => simp at h
  | case2 r ih =>
    rcases List.mem_cons.1 h with rfl | hmem
    · simp
    · exact ih hmem
  | case3 a r _ _ _ =>
    obtain rfl := List.mem_singleton.1 h
    simp
  | case4 a r _ part' parts hcut ih =>
    rcases List.mem_cons.1 h with rfl | hmem
    · simp
    · exact ih (hcut ▸ List.mem_cons_of_mem _ hmem)

/-- The mark ends a part; it stands nowhere else in it. -/
lemma mark_notMem_dropLast {part : List α} (h : part ∈ cutAfter mark l) : mark ∉ part.dropLast := by
  fun_induction cutAfter mark l generalizing part with
  | case1 => simp at h
  | case2 r ih =>
    rcases List.mem_cons.1 h with rfl | hmem
    · simp
    · exact ih hmem
  | case3 a r _ _ _ =>
    obtain rfl := List.mem_singleton.1 h
    simp
  | case4 a r ha part' parts hcut ih =>
    rcases List.mem_cons.1 h with rfl | hmem
    · have hpart := ih (hcut ▸ List.mem_cons_self)
      have hne : part' ≠ [] := ne_nil_of_mem_cutAfter (hcut ▸ List.mem_cons_self)
      rw [List.dropLast_cons_of_ne_nil hne]
      exact List.not_mem_cons_of_ne_of_not_mem (Ne.symm ha) hpart
    · exact ih (hcut ▸ List.mem_cons_of_mem _ hmem)

@[simp] lemma cutAfter_eq_nil_iff : cutAfter mark l = [] ↔ l = [] := by
  cases l with
  | nil => simp [cutAfter]
  | cons a r =>
    rw [cutAfter]
    split_ifs
    · simp
    · split <;> simp

/-- The first part of a list, empty if there is none. -/
def firstPart (mark : α) (l : List α) : List α := (cutAfter mark l).headD []

/-- The other parts. -/
def laterParts (mark : α) (l : List α) : List (List α) := (cutAfter mark l).tail

lemma cutAfter_of_ne_nil (h : l ≠ []) : cutAfter mark l = firstPart mark l :: laterParts mark l := by
  have hne : cutAfter mark l ≠ [] := fun hnil => h (cutAfter_eq_nil_iff.1 hnil)
  obtain ⟨part, parts, hcut⟩ := List.exists_cons_of_ne_nil hne
  simp [firstPart, laterParts, hcut]

/-- What stands in front of the first mark belongs to the first part. -/
lemma cutAfter_append (h : mark ∉ l) (hne : l ++ l' ≠ []) :
    cutAfter mark (l ++ l') = (l ++ firstPart mark l') :: laterParts mark l' := by
  induction l with
  | nil => exact cutAfter_of_ne_nil hne
  | cons a l ih =>
    obtain ⟨ha, hl⟩ := not_or.1 fun hmem => h (List.mem_cons.2 hmem)
    rw [List.cons_append, cutAfter, if_neg (Ne.symm ha)]
    by_cases hrest : l ++ l' = []
    · obtain ⟨rfl, rfl⟩ := List.append_eq_nil_iff.1 hrest
      rfl
    · rw [ih hl hrest]
      rfl

/-- A part up to its mark, and then the others. -/
lemma cutAfter_append_mark (h : mark ∉ l) :
    cutAfter mark (l ++ mark :: l') = (l ++ [mark]) :: cutAfter mark l' := by
  have hcut : cutAfter mark (mark :: l') = [mark] :: cutAfter mark l' := by simp [cutAfter]
  rw [cutAfter_append h (by simp), firstPart, laterParts, hcut]
  rfl

lemma firstPart_append (h : mark ∉ l) (l' : List α) :
    firstPart mark (l ++ l') = l ++ firstPart mark l' := by
  by_cases hne : l ++ l' = []
  · obtain ⟨rfl, rfl⟩ := List.append_eq_nil_iff.1 hne
    rfl
  · rw [firstPart, cutAfter_append h hne]
    rfl

lemma laterParts_append (h : mark ∉ l) (l' : List α) :
    laterParts mark (l ++ l') = laterParts mark l' := by
  by_cases hne : l ++ l' = []
  · obtain ⟨rfl, rfl⟩ := List.append_eq_nil_iff.1 hne
    rfl
  · rw [laterParts, cutAfter_append h hne]
    rfl

@[simp] lemma firstPart_mark (l : List α) : firstPart mark (mark :: l) = [mark] := by
  simp [firstPart, cutAfter]

@[simp] lemma laterParts_mark (l : List α) : laterParts mark (mark :: l) = cutAfter mark l := by
  simp [laterParts, cutAfter]

/-- Without a mark a list has one part. -/
lemma firstPart_of_notMem (h : mark ∉ l) : firstPart mark l = l := by
  have hwhole := firstPart_append h ([] : List α)
  rw [List.append_nil] at hwhole
  rw [hwhole]
  exact List.append_nil l

/-- The first part goes up to the first mark. -/
lemma firstPart_append_mark (h : mark ∉ l) (l' : List α) :
    firstPart mark (l ++ mark :: l') = l ++ [mark] := by
  rw [firstPart_append h, firstPart_mark]

lemma firstPart_isPrefix (mark : α) (l : List α) : firstPart mark l <+: l := by
  by_cases hmem : mark ∈ l
  · obtain ⟨part, rest, rfl, hpart⟩ := List.eq_append_cons_of_mem hmem
    rw [firstPart_append_mark hpart]
    exact (List.prefix_append_right_inj part).2 (List.cons_prefix_cons.2 ⟨rfl, List.nil_prefix⟩)
  · exact (firstPart_of_notMem hmem).symm ▸ List.prefix_rfl

/-- The list is empty or ends with the mark. -/
def Ends (mark : α) (l : List α) : Prop := l = [] ∨ ∃ r, l = r ++ [mark]

/-- Behind a mark a new part begins. -/
lemma cutAfter_append_of_ends (h : Ends mark l) (l' : List α) :
    cutAfter mark (l ++ l') = cutAfter mark l ++ cutAfter mark l' := by
  rcases h with rfl | ⟨r, rfl⟩
  · rfl
  · induction r with
    | nil => simp [cutAfter]
    | cons a r ih =>
      rw [List.cons_append, List.cons_append, cutAfter, cutAfter]
      split_ifs
      · rw [ih, List.cons_append]
      · rw [ih]
        obtain ⟨part, parts, hcut⟩ := List.exists_cons_of_ne_nil
          (show cutAfter mark (r ++ [mark]) ≠ [] by simp)
        rw [hcut]
        rfl

/-- If the last part ends with the mark, there are as many parts as marks. -/
lemma length_cutAfter_of_ends (h : Ends mark l) : (cutAfter mark l).length = l.count mark := by
  rcases h with rfl | ⟨r, rfl⟩
  · rfl
  · induction r with
    | nil => simp [cutAfter]
    | cons a r ih =>
      rw [List.cons_append, cutAfter]
      split_ifs with ha
      · rw [List.length_cons, ih, ha, List.count_cons_self]
      · obtain ⟨part, parts, hcut⟩ := List.exists_cons_of_ne_nil
          (show cutAfter mark (r ++ [mark]) ≠ [] by simp)
        rw [hcut] at ih ⊢
        rw [List.count_cons_of_ne ha, ← ih]
        rfl

omit [DecidableEq α] in
lemma Ends.append (h : Ends mark l) (h' : Ends mark l') : Ends mark (l ++ l') := by
  rcases h' with rfl | ⟨r, rfl⟩
  · rwa [List.append_nil]
  · exact Or.inr ⟨l ++ r, (List.append_assoc l r [mark]).symm⟩

/-- A list is some whole parts and a rest without a mark. -/
lemma exists_ends_append (mark : α) (l : List α) :
    ∃ whole rest, l = whole ++ rest ∧ Ends mark whole ∧ mark ∉ rest := by
  induction l using List.reverseRecOn with
  | nil => exact ⟨[], [], rfl, Or.inl rfl, by simp⟩
  | append_singleton l a ih =>
    by_cases ha : a = mark
    · subst ha
      exact ⟨l ++ [a], [], by simp, Or.inr ⟨l, rfl⟩, by simp⟩
    · obtain ⟨whole, rest, rfl, hwhole, hrest⟩ := ih
      refine ⟨whole, rest ++ [a], by simp, hwhole, ?_⟩
      simp [hrest, Ne.symm ha]

/-- Parts that hold no mark but the one behind them are found again. -/
lemma cutAfter_flatMap {parts : List (List α)} (h : ∀ part ∈ parts, mark ∉ part) :
    cutAfter mark (parts.flatMap (· ++ [mark])) = parts.map (· ++ [mark]) := by
  induction parts with
  | nil => rfl
  | cons part parts ih =>
    obtain ⟨hpart, hparts⟩ := List.forall_mem_cons.1 h
    rw [List.flatMap_cons, List.append_assoc, List.singleton_append, cutAfter_append_mark hpart,
      ih hparts, List.map_cons]

end ScriptLexer
