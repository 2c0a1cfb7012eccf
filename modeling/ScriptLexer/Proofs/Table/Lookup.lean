import Mathlib.Tactic.Lemma
import ScriptLexer.Table

/-!
# Looking up in a table

A choice of spellings that is accepted becomes a table with exactly these texts.  The text of a
keyword leads back to the keyword, since no two have the same.
-/

namespace ScriptLexer.Table

variable {s : Spellings} {table : Table}

lemma ofSpellings_of_faultless (h : s.fault? = none) : ofSpellings s = .ok (ofFaultless s h) := by
  unfold ofSpellings
  split
  · rename_i e hfault
    rw [h] at hfault
    cases hfault
  · rfl

/-- The table holds the texts that it was made from. -/
lemma spelling_of_ofSpellings (h : ofSpellings s = .ok table) (k : Kind) :
    table.spelling k = s.text k := by
  unfold ofSpellings at h
  split at h
  · cases h
  · obtain rfl := Except.ok.inj h
    rfl

lemma eq_of_spelling_keyword_eq {j k : Keyword}
    (h : table.spelling (.keyword j) = table.spelling (.keyword k)) : j = k := by
  have hkind : Kind.keyword j = Kind.keyword k :=
    table.eq_of_spelling_eq _ (Kind.keyword_mem_fixed j) _ (Kind.keyword_mem_fixed k) h
  exact Kind.keyword.inj hkind

lemma spelling_of_keyword? {name : Text} {k : Keyword} (h : table.keyword? name = some k) :
    table.spelling (.keyword k) = name := by
  have hspelling := List.find?_some h
  exact beq_iff_eq.1 hspelling

/-- A name is looked up as the keyword that is spelled so. -/
lemma keyword?_eq_some_iff {name : Text} {k : Keyword} :
    table.keyword? name = some k ↔ table.spelling (.keyword k) = name := by
  refine ⟨spelling_of_keyword?, ?_⟩
  rintro rfl
  cases hfound : table.keyword? (table.spelling (.keyword k)) with
  | none =>
    have hother := List.find?_eq_none.1 hfound k (Keyword.mem_all k)
    exact absurd (beq_self_eq_true _) hother
  | some j => rw [eq_of_spelling_keyword_eq (spelling_of_keyword? hfound)]

lemma keyword?_eq_none_iff {name : Text} :
    table.keyword? name = none ↔ ∀ k : Keyword, table.spelling (.keyword k) ≠ name := by
  simp only [Option.eq_none_iff_forall_ne_some, ne_eq, keyword?_eq_some_iff]

end ScriptLexer.Table
