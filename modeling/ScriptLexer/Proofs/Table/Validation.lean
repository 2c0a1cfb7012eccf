import Mathlib.Data.List.Nodup
import ScriptLexer.Proofs.Table.Lookup

/-!
# Which spellings are accepted

A choice of spellings goes through three checks, one after the other, and the first thing that is
found wrong is reported.  Together they find something exactly if something is wrong, whatever the
order of the checks: a report is true of the spellings (`TableError.Describes`), and a table that
was made rules all reports out.

The table then holds the spellings it was made from.  The main result, `ofSpellings_exact`, says
both, and that looking up a name is the inverse of spelling a keyword.
-/

namespace ScriptLexer

/-! ## The order of kinds -/

namespace Kind

/-- How many kinds stand in front of a kind in the language's table. -/
def place (k : Kind) : Nat := all.idxOf k

lemma nodup_all : all.Nodup := by decide +kernel

lemma nodup_fixed : fixed.Nodup := nodup_all.sublist (List.sublist_append_left _ _)

lemma pairwise_place : all.Pairwise fun j k => j.place < k.place := by
  rw [List.pairwise_iff_getElem]
  intro i j hi hj hlt
  rwa [place, place, nodup_all.idxOf_getElem, nodup_all.idxOf_getElem]

lemma operators_sublist_all : (Operator.all.map .operator).Sublist all :=
  (List.sublist_append_left _ _).trans (List.sublist_append_left _ _)

lemma keywords_sublist_all : (Keyword.all.map .keyword).Sublist all :=
  (List.sublist_append_right _ _).trans (List.sublist_append_left _ _)

end Kind

/-! ## What the checks find -/

/-- What a report says of the spellings. -/
def TableError.Describes (s : Spellings) : TableError → Prop
  | .noSpelling k => s k = none ∨ s k = some []
  | .sharedSpelling j k t =>
    j ∈ Kind.fixed ∧ k ∈ Kind.fixed ∧ j ≠ k ∧ s j = some t ∧ s k = some t
  | .notAName k t => s (.keyword k) = some t ∧ Name.isValid t = false
  | .alreadyBuilt => False

namespace Spellings

variable {s : Spellings}

lemma text_eq_nil_iff {k : Kind} : s.text k = [] ↔ s k = none ∨ s k = some [] := by
  unfold text
  cases s k <;> simp

lemma eq_some_text {k : Kind} (h : s.text k ≠ []) : s k = some (s.text k) := by
  unfold text at h ⊢
  cases hk : s k with
  | none => simp [hk] at h
  | some t => rfl

lemma text_ne_nil_of_missing? (h : s.missing? = none) (k : Kind) : s.text k ≠ [] := by
  have hk := List.find?_eq_none.1 h k (Kind.mem_all k)
  simpa using hk

lemma text_eq_nil_of_missing? {k : Kind} (h : s.missing? = some k) : s.text k = [] := by
  have hk := List.find?_some h
  simpa using hk

/-- The two kinds that are found are different ones with the same text. -/
lemma mem_of_repeated? {seen kinds : List Kind} {j k : Kind} (hnodup : (seen ++ kinds).Nodup)
    (h : s.repeated? seen kinds = some (j, k)) :
    j ∈ seen ++ kinds ∧ k ∈ kinds ∧ j ≠ k ∧ s.text j = s.text k := by
  induction kinds generalizing seen with
  | nil => simp [repeated?] at h
  | cons first kinds ih =>
    rw [repeated?] at h
    split at h
    · rename_i other hother
      obtain ⟨rfl, rfl⟩ := Prod.mk.inj (Option.some.inj h)
      have hmem := List.mem_of_find?_eq_some hother
      have htext := List.find?_some hother
      refine ⟨List.mem_append_left _ hmem, List.mem_cons_self, ?_, beq_iff_eq.1 htext⟩
      rintro rfl
      -- the kind in front is none of those to come
      exact (List.nodup_append.1 hnodup).2.2 _ hmem _ List.mem_cons_self rfl
    · obtain ⟨hj, hk, hne, htext⟩ := ih (List.nodup_middle.1 hnodup) h
      refine ⟨?_, List.mem_cons_of_mem _ hk, hne, htext⟩
      rw [List.mem_append, List.mem_cons]
      rw [List.cons_append, List.mem_cons, List.mem_append] at hj
      tauto

/-- Every report is true of the spellings. -/
lemma describes_of_fault? {e : TableError} (h : s.fault? = some e) : e.Describes s := by
  unfold fault? at h
  split at h
  · rename_i k hmissing
    obtain rfl := Option.some.inj h
    exact text_eq_nil_iff.1 (text_eq_nil_of_missing? hmissing)
  · rename_i hmissing
    -- from here on every kind has some text, so that equal texts are texts chosen for both
    have hsome : ∀ k, s k = some (s.text k) := fun k =>
      eq_some_text (text_ne_nil_of_missing? hmissing k)
    split at h
    · rename_i j k hrepeated
      obtain rfl := Option.some.inj h
      have hnodup : ([] ++ Kind.fixed).Nodup := Kind.nodup_fixed
      obtain ⟨hj, hk, hne, htext⟩ := mem_of_repeated? hnodup hrepeated
      exact ⟨hj, hk, hne, htext ▸ hsome j, hsome k⟩
    · obtain ⟨k, hmisnamed, rfl⟩ := Option.map_eq_some_iff.1 h
      have hname := List.find?_some hmisnamed
      exact ⟨hsome _, by simpa using hname⟩

end Spellings

namespace Table

variable {s : Spellings} {table : Table}

lemma ofSpellings_eq_error_iff {e : TableError} :
    ofSpellings s = .error e ↔ s.fault? = some e := by
  unfold ofSpellings
  split
  · rename_i e' hfault
    rw [hfault, Except.error.injEq, Option.some.injEq]
  · rename_i hfault
    simp [hfault]

/-- A table holds the spellings that it was made from. -/
lemma eq_some_spelling (h : ofSpellings s = .ok table) (k : Kind) :
    s k = some (table.spelling k) := by
  have htext := spelling_of_ofSpellings h k
  rw [htext]
  refine Spellings.eq_some_text ?_
  rw [← htext]
  exact table.spelling_ne_nil k

/-- No report is true of the spellings of a table. -/
lemma not_describes_of_ofSpellings (h : ofSpellings s = .ok table) (e : TableError) :
    ¬ e.Describes s := by
  have hsome := eq_some_spelling h
  cases e with
  | noSpelling k =>
    rintro (hnone | hempty)
    · rw [hsome k] at hnone
      cases hnone
    · rw [hsome k] at hempty
      exact table.spelling_ne_nil k (Option.some.inj hempty)
  | sharedSpelling j k t =>
    rintro ⟨hj, hk, hne, htext, htext'⟩
    rw [hsome j] at htext
    rw [hsome k, ← htext] at htext'
    exact hne (table.eq_of_spelling_eq j hj k hk (Option.some.inj htext').symm)
  | notAName k t =>
    rintro ⟨htext, hname⟩
    rw [hsome] at htext
    rw [← Option.some.inj htext, table.isValid_keyword k] at hname
    cases hname
  | alreadyBuilt => exact id

/-- Spellings are refused exactly if there is something to report. -/
lemma exists_error_iff : (∃ e, ofSpellings s = .error e) ↔ ∃ e : TableError, e.Describes s := by
  constructor
  · rintro ⟨e, herror⟩
    exact ⟨e, Spellings.describes_of_fault? (ofSpellings_eq_error_iff.1 herror)⟩
  · rintro ⟨e, hdescribes⟩
    cases hmade : ofSpellings s with
    | error e' => exact ⟨e', rfl⟩
    | ok table => exact absurd hdescribes (not_describes_of_ofSpellings hmade e)

/-! ## What a table answers -/

/-- No operator is spelled as a keyword. -/
lemma keyword?_spelling_operator (o : Operator) :
    table.keyword? (table.spelling (.operator o)) = none := by
  rw [keyword?_eq_none_iff]
  intro k hsame
  have hkind : Kind.keyword k = .operator o :=
    table.eq_of_spelling_eq _ (Kind.keyword_mem_fixed k) _ (Kind.operator_mem_fixed o) hsame
  cases hkind

lemma mem_keywords_iff {name : Text} {k : Keyword} :
    (name, k) ∈ table.keywords ↔ table.spelling (.keyword k) = name := by
  simp [keywords, Keyword.mem_all]

/-- No keyword takes the place of another under its text. -/
lemma nodup_keywords (table : Table) : (table.keywords.map Prod.fst).Nodup := by
  have hkinds : (Keyword.all.map Kind.keyword).Nodup :=
    Kind.nodup_all.sublist Kind.keywords_sublist_all
  rw [keywords, List.map_map]
  refine (List.Nodup.of_map _ hkinds).map ?_
  intro j k hsame
  exact eq_of_spelling_keyword_eq hsame

lemma mem_operators_true_iff {o : Operator} {t : Text} :
    (o, t) ∈ table.operators true ↔ t = table.spelling (.operator o) := by
  simp [operators, Operator.mem_all, eq_comm]

/-- The operators stand in the order of the kinds, so each of them once. -/
lemma pairwise_operators (table : Table) :
    (table.operators true).Pairwise fun first second =>
      (Kind.operator first.1).place < (Kind.operator second.1).place := by
  have hkinds := Kind.pairwise_place.sublist Kind.operators_sublist_all
  simpa [operators, List.pairwise_map] using hkinds

lemma operators_false (table : Table) :
    table.operators false = (table.operators true).filter fun entry => entry.1 ∉
      [.caselessEqual, .caselessEqualUpper, .caselessNotEqual, .caselessNotEqualUpper] := by
  have hfamily : ∀ o : Operator, (!o.isCaseless) = decide (o ∉
      [.caselessEqual, .caselessEqualUpper, .caselessNotEqual, .caselessNotEqualUpper]) := by
    intro o
    cases o <;> rfl
  simp only [operators, List.filter_map, Bool.true_or, List.filter_true, Bool.false_or, hfamily]
  rfl

/-- **Spellings are checked exactly, and looked up as they are spelled.**  A choice of spellings is
refused if and only if some kind has no text or an empty one, two different operators or keywords
have the same text, or the text of a keyword is no name; and what is reported is true of it.  If it
is accepted, the table has its texts.  Looking up a name gives a keyword exactly if that is spelled
so, which is one keyword at most and none for the text of an operator; under the texts of the
keywords every one of them is kept.  The operators are listed with their texts, each once and in the
order of the kinds, and without the four caseless comparisons if these are not asked for. -/
theorem ofSpellings_exact (s : Spellings) :
    ((∃ e, ofSpellings s = .error e) ↔
      (∃ k, s k = none ∨ s k = some []) ∨
      (∃ j ∈ Kind.fixed, ∃ k ∈ Kind.fixed, j ≠ k ∧ ∃ t, s j = some t ∧ s k = some t) ∨
      ∃ (k : Keyword) (t : Text), s (.keyword k) = some t ∧ Name.isValid t = false) ∧
    (∀ e, ofSpellings s = .error e → e.Describes s) ∧
    ∀ table, ofSpellings s = .ok table →
      (∀ k, s k = some (table.spelling k)) ∧
      (∀ name k, table.keyword? name = some k ↔ table.spelling (.keyword k) = name) ∧
      (∀ j k, table.spelling (.keyword j) = table.spelling (.keyword k) → j = k) ∧
      (∀ o, table.keyword? (table.spelling (.operator o)) = none) ∧
      (∀ name k, (name, k) ∈ table.keywords ↔ table.spelling (.keyword k) = name) ∧
      (table.keywords.map Prod.fst).Nodup ∧
      (∀ o t, (o, t) ∈ table.operators true ↔ t = table.spelling (.operator o)) ∧
      ((table.operators true).Pairwise fun first second =>
        (Kind.operator first.1).place < (Kind.operator second.1).place) ∧
      table.operators false = (table.operators true).filter fun entry => entry.1 ∉
        [.caselessEqual, .caselessEqualUpper, .caselessNotEqual, .caselessNotEqualUpper] := by
  refine ⟨?_, ?_, ?_⟩
  · rw [exists_error_iff]
    constructor
    · rintro ⟨e, hdescribes⟩
      cases e with
      | noSpelling k => exact Or.inl ⟨k, hdescribes⟩
      | sharedSpelling j k t =>
        obtain ⟨hj, hk, hne, htexts⟩ := hdescribes
        exact Or.inr (Or.inl ⟨j, hj, k, hk, hne, t, htexts⟩)
      | notAName k t => exact Or.inr (Or.inr ⟨k, t, hdescribes⟩)
      | alreadyBuilt => exact hdescribes.elim
    · rintro (⟨k, hmissing⟩ | ⟨j, hj, k, hk, hne, t, htexts⟩ | ⟨k, t, hname⟩)
      · exact ⟨.noSpelling k, hmissing⟩
      · exact ⟨.sharedSpelling j k t, hj, hk, hne, htexts⟩
      · exact ⟨.notAName k t, hname⟩
  · intro e herror
    exact Spellings.describes_of_fault? (ofSpellings_eq_error_iff.1 herror)
  · intro table htable
    exact ⟨eq_some_spelling htable, fun _ _ => keyword?_eq_some_iff,
      fun _ _ => eq_of_spelling_keyword_eq, keyword?_spelling_operator, fun _ _ => mem_keywords_iff,
      nodup_keywords table, fun _ _ => mem_operators_true_iff, pairwise_operators table,
      operators_false table⟩

/-- A keyword gives up its usual text, and an operator is spelled so in its place. -/
theorem ofSpellings_exact_exchanged :
    ∃ (s : Spellings) (table : Table), ofSpellings s = .ok table ∧
      s (.keyword .classWord) = some "klass".toList ∧
      s (.operator .colon) = some "class".toList ∧
      table.keyword? "klass".toList = some .classWord ∧ table.keyword? "class".toList = none ∧
      (.colon, "class".toList) ∈ table.operators false := by
  let s : Spellings := (Spellings.standard.set (.keyword .classWord) (some "klass".toList)).set
    (.operator .colon) (some "class".toList)
  have hfault : s.fault? = none := by decide +kernel
  have htable := ofSpellings_of_faultless hfault
  obtain ⟨-, hlookup, -, hoperator, -, -, hmem, -, hfew⟩ := (ofSpellings_exact s).2.2 _ htable
  refine ⟨s, _, htable, rfl, rfl, (hlookup _ _).2 rfl, hoperator .colon, ?_⟩
  rw [hfew]
  exact List.mem_filter.2 ⟨(hmem _ _).2 rfl, rfl⟩

end Table

end ScriptLexer
