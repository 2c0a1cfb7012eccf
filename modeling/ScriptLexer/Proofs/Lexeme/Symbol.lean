import Mathlib.Data.List.Basic
import Mathlib.Data.List.Infix
import ScriptLexer.Lexeme.Symbol
import ScriptLexer.Proofs.Text.Blank

/-!
# The longest match

The operator that is found on a line is the one entry with the longest text among those that begin
the line.  This rests on the texts alone, if they differ from each other and none is empty: then
there are no ties, and the order of the entries is of no account.

Neither is what lies behind the text, as long as no longer entry goes on into it; if no entry holds
a blank, a blank is enough for that.  And entries that are not found may be left out of the table.
-/

namespace ScriptLexer

/-- The kinds under which the caseless comparisons are reported. -/
def Kind.comparesCaseless : Kind → Bool
  | .operator .caselessEqual | .operator .caselessNotEqual => true
  | _ => false

lemma Kind.comparesCaseless_canonical (o : Operator) :
    (Kind.operator o.canonical).comparesCaseless = o.isCaseless := by
  cases o <;> rfl

namespace Symbol

variable {entries : List (Operator × Text)} {line : Text}

/-- How long the match so far is. -/
def matched (best : Option (Operator × Text)) : Nat := best.elim 0 fun entry => entry.2.length

lemma matched_le_better (best : Option (Operator × Text)) (entry : Operator × Text) :
    matched best ≤ matched (better line best entry) := by
  unfold better
  split_ifs with hlong
  · simp only [Bool.and_eq_true, decide_eq_true_eq] at hlong
    exact Nat.le_of_lt hlong.2
  · exact Nat.le_refl _

lemma length_le_better (best : Option (Operator × Text)) {entry : Operator × Text}
    (h : entry.2 <+: line) : entry.2.length ≤ matched (better line best entry) := by
  unfold better
  split_ifs with hlong
  · exact Nat.le_refl _
  · rw [Bool.and_eq_true, List.isPrefixOf_iff_prefix, decide_eq_true_eq] at hlong
    exact Nat.le_of_not_lt fun hlt => hlong ⟨h, hlt⟩

lemma matched_le_foldl (best : Option (Operator × Text)) :
    matched best ≤ matched (entries.foldl (better line) best) := by
  induction entries generalizing best with
  | nil => exact Nat.le_refl _
  | cons entry entries ih => exact Nat.le_trans (matched_le_better best entry) (ih _)

/-- No entry that begins the line is longer than the match. -/
lemma length_le_longest? {entry : Operator × Text} (hmem : entry ∈ entries)
    (h : entry.2 <+: line) : entry.2.length ≤ matched (longest? entries line) := by
  suffices ∀ best, entry.2.length ≤ matched (entries.foldl (better line) best) from this none
  induction entries with
  | nil => simp at hmem
  | cons first entries ih =>
    intro best
    rw [List.foldl_cons]
    rcases List.mem_cons.1 hmem with rfl | hmem
    · exact Nat.le_trans (length_le_better best h) (matched_le_foldl _)
    · exact ih hmem _

/-- Where an entry with some text begins the line, there is a match, and it is no shorter. -/
lemma exists_longest? {entry : Operator × Text} (hmem : entry ∈ entries) (h : entry.2 <+: line)
    (hne : entry.2 ≠ []) :
    ∃ found, longest? entries line = some found ∧ entry.2.length ≤ found.2.length := by
  have hlength := length_le_longest? hmem h
  cases hfound : longest? entries line with
  | none =>
    rw [hfound] at hlength
    exact absurd (List.length_eq_zero_iff.1 (Nat.le_zero.1 hlength)) hne
  | some found =>
    rw [hfound] at hlength
    exact ⟨found, rfl, hlength⟩

/-- The texts of the entries tell them apart, and none is empty. -/
structure Distinct (entries : List (Operator × Text)) : Prop where
  ne_nil : ∀ entry ∈ entries, entry.2 ≠ []
  injective : ∀ first ∈ entries, ∀ second ∈ entries, first.2 = second.2 → first = second

/-- The entry begins the line, and no longer one does. -/
structure Longest (entries : List (Operator × Text)) (line : Text) (entry : Operator × Text) :
    Prop where
  mem : entry ∈ entries
  begins : entry.2 <+: line
  longest : ∀ other ∈ entries, other.2 <+: line → other.2.length ≤ entry.2.length

lemma longest_of_longest? {entry : Operator × Text} (h : longest? entries line = some entry) :
    Longest entries line entry where
  mem := (longest?_mem h).1
  begins := (longest?_mem h).2
  longest other hother hline := by
    have hlength := length_le_longest? hother hline
    rwa [h] at hlength

/-- There is one longest entry at most: two of one length that begin the same line have one text. -/
lemma Longest.eq (hdistinct : Distinct entries) {first second : Operator × Text}
    (hfirst : Longest entries line first) (hsecond : Longest entries line second) :
    first = second := by
  have hlength : first.2.length = second.2.length :=
    Nat.le_antisymm (hsecond.longest first hfirst.mem hfirst.begins)
      (hfirst.longest second hsecond.mem hsecond.begins)
  have hsame : first.2 <+: second.2 :=
    List.prefix_of_prefix_length_le hfirst.begins hsecond.begins (Nat.le_of_eq hlength)
  exact hdistinct.injective first hfirst.mem second hsecond.mem (hsame.eq_of_length hlength)

lemma longest?_of_longest (hdistinct : Distinct entries) {entry : Operator × Text}
    (h : Longest entries line entry) : longest? entries line = some entry := by
  obtain ⟨found, hfound, -⟩ := exists_longest? h.mem h.begins (hdistinct.ne_nil entry h.mem)
  rw [hfound, (longest_of_longest? hfound).eq hdistinct h]

end Symbol

namespace Table

/-- No operator is spelled with a blank. -/
def Blankless (table : Table) : Prop :=
  ∀ o : Operator, ∀ c ∈ table.spelling (.operator o), isBlank c = false

lemma blankless_standard : standard.Blankless := by
  have hall : (Operator.all.all fun o =>
      (standard.spelling (.operator o)).all fun c => !isBlank c) = true := by
    decide +kernel
  simp only [List.all_eq_true, Bool.not_eq_true'] at hall
  exact fun o => hall o (Operator.mem_all o)

lemma mem_operators {table : Table} {caseless : Bool} {entry : Operator × Text}
    (h : entry ∈ table.operators caseless) : entry.2 = table.spelling (.operator entry.1) := by
  obtain ⟨o, -, rfl⟩ := List.mem_map.1 h
  rfl

lemma ne_nil_of_mem_operators {table : Table} {caseless : Bool} {entry : Operator × Text}
    (h : entry ∈ table.operators caseless) : entry.2 ≠ [] := by
  rw [mem_operators h]
  exact table.spelling_ne_nil _

/-- Without the caseless comparisons the other operators are left. -/
lemma mem_operators_false_iff {table : Table} {entry : Operator × Text} :
    entry ∈ table.operators false ↔
      entry ∈ table.operators true ∧ entry.1.isCaseless = false := by
  simp only [operators, List.mem_map, List.mem_filter, Bool.false_or, Bool.not_eq_true',
    Bool.true_or, and_true]
  constructor
  · rintro ⟨o, ⟨hmem, hcase⟩, rfl⟩
    exact ⟨⟨o, hmem, rfl⟩, hcase⟩
  · rintro ⟨⟨o, hmem, rfl⟩, hcase⟩
    exact ⟨o, ⟨hmem, hcase⟩, rfl⟩

/-- The text tells the operator. -/
lemma operators_injective {table : Table} {caseless : Bool} {first second : Operator × Text}
    (hfirst : first ∈ table.operators caseless) (hsecond : second ∈ table.operators caseless)
    (h : first.2 = second.2) : first = second := by
  rw [mem_operators hfirst, mem_operators hsecond] at h
  have hkind : Kind.operator first.1 = Kind.operator second.1 :=
    table.eq_of_spelling_eq _ (Kind.operator_mem_fixed _) _ (Kind.operator_mem_fixed _) h
  refine Prod.ext (Kind.operator.inj hkind) ?_
  rw [mem_operators hfirst, mem_operators hsecond, h]

/-- The entries of an accepted table are told apart by their texts. -/
lemma distinct_operators (table : Table) (caseless : Bool) :
    Symbol.Distinct (table.operators caseless) where
  ne_nil _ hentry := ne_nil_of_mem_operators hentry
  injective _ hfirst _ hsecond := operators_injective hfirst hsecond

end Table

namespace Symbol

/-- What begins a text with a break behind it, and holds no blank, lies within the text. -/
lemma prefix_of_prefix_append {t text rest : Text} (h : t <+: text ++ rest) (hrest : rest.Breaks)
    (ht : ∀ c ∈ t, isBlank c = false) : t <+: text := by
  rcases List.prefix_or_prefix_of_prefix h (List.prefix_append text rest) with hshort | ⟨u, rfl⟩
  · exact hshort
  · -- what goes on into the break would begin with its blank
    cases u with
    | nil => simp
    | cons c u =>
      obtain ⟨v, rfl⟩ := (List.prefix_append_right_inj text).1 h
      have hblank : isBlank c = true := hrest c rfl
      rw [ht c (by simp)] at hblank
      simp at hblank

/-- The match is found again in front of a break. -/
lemma longest?_append_of_breaks {table : Table} {caseless : Bool} {line rest : Text}
    {entry : Operator × Text} (htable : table.Blankless)
    (h : longest? (table.operators caseless) line = some entry) (hrest : rest.Breaks) :
    longest? (table.operators caseless) (entry.2 ++ rest) = some entry := by
  refine longest?_of_longest (table.distinct_operators caseless)
    ⟨(longest?_mem h).1, List.prefix_append entry.2 rest, ?_⟩
  intro other hmem hbegin
  -- what begins the line cannot go on into the break
  have hwithin : other.2 <+: entry.2 := by
    refine prefix_of_prefix_append hbegin hrest ?_
    rw [Table.mem_operators hmem]
    exact htable _
  exact hwithin.length_le

/-- An operator is read again in front of a break. -/
lemma read?_append_of_breaks {table : Table} {caseless : Bool} {line rest : Text} {l : Lexeme}
    (htable : table.Blankless) (h : read? table caseless line = some l) (hrest : rest.Breaks) :
    read? table caseless (l.text ++ rest) = some l := by
  obtain ⟨entry, hlongest, rfl⟩ := Option.map_eq_some_iff.1 h
  unfold read?
  rw [longest?_append_of_breaks htable hlongest hrest]
  rfl

lemma solid_of_read? {table : Table} {caseless : Bool} {line : Text} {l : Lexeme}
    (htable : table.Blankless) (h : read? table caseless line = some l) : l.text.Solid := by
  obtain ⟨entry, hlongest, rfl⟩ := Option.map_eq_some_iff.1 h
  have htext := Table.mem_operators (longest?_mem hlongest).1
  refine Text.Solid.of_forall ?_ ?_
  · show entry.2 ≠ []
    rw [htext]
    exact table.spelling_ne_nil _
  · show ∀ c ∈ entry.2, _
    rw [htext]
    exact htable _

/-! ## Fewer operators -/

/-- A match that is none of the caseless comparisons is found also without these. -/
lemma longest?_false_of_some {table : Table} {line : Text} {entry : Operator × Text}
    (h : longest? (table.operators true) line = some entry) (hcase : entry.1.isCaseless = false) :
    longest? (table.operators false) line = some entry := by
  obtain ⟨hmem, hbegin, hlongest⟩ := longest_of_longest? h
  refine longest?_of_longest (table.distinct_operators false)
    ⟨Table.mem_operators_false_iff.2 ⟨hmem, hcase⟩, hbegin, ?_⟩
  intro other hother
  exact hlongest other (Table.mem_operators_false_iff.1 hother).1

lemma longest?_false_of_none {table : Table} {line : Text}
    (h : longest? (table.operators true) line = none) :
    longest? (table.operators false) line = none := by
  refine Option.eq_none_iff_forall_ne_some.2 fun entry hentry => ?_
  obtain ⟨hmem, hbegin⟩ := longest?_mem hentry
  obtain ⟨found, hfound, -⟩ := exists_longest? (Table.mem_operators_false_iff.1 hmem).1 hbegin
    (Table.ne_nil_of_mem_operators hmem)
  rw [h] at hfound
  cases hfound

/-- Without the caseless comparisons the same is read wherever none of them is read with them. -/
lemma read?_false {table : Table} {line : Text}
    (h : ∀ l, read? table true line = some l → l.kind.comparesCaseless = false) :
    read? table false line = read? table true line := by
  unfold read? at h ⊢
  cases hlongest : longest? (table.operators true) line with
  | none => rw [longest?_false_of_none hlongest]
  | some entry =>
    have hkind := h { kind := .operator entry.1.canonical, text := entry.2 } (by rw [hlongest]; rfl)
    rw [longest?_false_of_some hlongest ((Kind.comparesCaseless_canonical entry.1).symm.trans hkind)]

end Symbol

end ScriptLexer
