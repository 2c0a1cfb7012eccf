import ScriptLexer.Proofs.Lexeme.Recognizer
import ScriptLexer.Proofs.Lexeme.Symbol
import ScriptLexer.Proofs.Table.Lookup

/-!
# Operators of an accepted table

The texts of the operators are arbitrary, as long as the table is accepted: one may begin many
others, and they may stand in any order.  Of the operators that take part and whose texts begin the
line there is then none or exactly one whose text is longer than the others, and it is this one that
is recognized.  The main statement is `Symbol.recognize_longest`.
-/

namespace ScriptLexer

/-- The operator takes part: the caseless comparisons do only if they are asked for. -/
def Operator.IsActive (caseless : Bool) (o : Operator) : Prop :=
  caseless = true ∨ o.isCaseless = false

/-- Of the operators that take part and whose texts begin the line, this one has the longest text,
and no other has one of that length. -/
structure Spellings.IsLongest (s : Spellings) (caseless : Bool) (line : Text) (o : Operator) :
    Prop where
  isActive : o.IsActive caseless
  begins : s.text (.operator o) <+: line
  longest : ∀ other : Operator, other.IsActive caseless → s.text (.operator other) <+: line →
    other ≠ o → (s.text (.operator other)).length < (s.text (.operator o)).length

lemma Table.mem_operators_iff {table : Table} {caseless : Bool} {entry : Operator × Text} :
    entry ∈ table.operators caseless ↔
      entry.1.IsActive caseless ∧ entry.2 = table.spelling (.operator entry.1) := by
  constructor
  · intro h
    refine ⟨?_, mem_operators h⟩
    obtain ⟨o, ho, rfl⟩ := List.mem_map.1 h
    simpa [Operator.IsActive] using (List.mem_filter.1 ho).2
  · rintro ⟨hactive, htext⟩
    refine List.mem_map.2 ⟨entry.1, List.mem_filter.2 ⟨Operator.mem_all _, ?_⟩, ?_⟩
    · simpa [Operator.IsActive] using hactive
    · rw [← htext]

namespace Symbol

variable {entries : List (Operator × Text)} {line : Text}

/-! ## Entries with different texts -/

lemma longest?_eq_some_iff (h : Distinct entries) {entry : Operator × Text} :
    longest? entries line = some entry ↔ Longest entries line entry :=
  ⟨longest_of_longest?, longest?_of_longest h⟩

lemma longest?_eq_none_iff (h : Distinct entries) :
    longest? entries line = none ↔ ∀ entry ∈ entries, ¬ entry.2 <+: line := by
  constructor
  · intro hnone entry hentry hbegin
    obtain ⟨found, hfound, -⟩ := exists_longest? hentry hbegin (h.ne_nil entry hentry)
    rw [hnone] at hfound
    cases hfound
  · intro hnot
    refine Option.eq_none_iff_forall_ne_some.2 fun entry hentry => ?_
    obtain ⟨hmem, hbegin⟩ := longest?_mem hentry
    exact hnot entry hmem hbegin

lemma Distinct.perm {entries' : List (Operator × Text)} (h : Distinct entries)
    (hperm : entries'.Perm entries) : Distinct entries' where
  ne_nil entry hentry := h.ne_nil entry (hperm.mem_iff.1 hentry)
  injective first hfirst second hsecond :=
    h.injective first (hperm.mem_iff.1 hfirst) second (hperm.mem_iff.1 hsecond)

/-- Which entry is the longest has nothing to do with the order. -/
lemma Longest.perm {entries' : List (Operator × Text)} {entry : Operator × Text}
    (h : Longest entries line entry) (hperm : entries'.Perm entries) :
    Longest entries' line entry where
  mem := hperm.mem_iff.2 h.mem
  begins := h.begins
  longest other hother := h.longest other (hperm.mem_iff.1 hother)

lemma longest?_perm {entries' : List (Operator × Text)} (h : Distinct entries)
    (hperm : entries'.Perm entries) : longest? entries' line = longest? entries line := by
  refine Option.ext fun entry => ?_
  rw [longest?_eq_some_iff h, longest?_eq_some_iff (h.perm hperm)]
  exact ⟨fun hlongest => hlongest.perm hperm.symm, fun hlongest => hlongest.perm hperm⟩

/-! ## The entries of a table -/

variable {s : Spellings} {table : Table} {caseless : Bool}

/-- The entry of an operator that takes part. -/
lemma mem_operators_of_isActive (h : Table.ofSpellings s = .ok table) {o : Operator}
    (ho : o.IsActive caseless) : (o, s.text (.operator o)) ∈ table.operators caseless :=
  Table.mem_operators_iff.2 ⟨ho, (Table.spelling_of_ofSpellings h _).symm⟩

lemma text_of_mem_operators (h : Table.ofSpellings s = .ok table) {entry : Operator × Text}
    (hentry : entry ∈ table.operators caseless) : entry.2 = s.text (.operator entry.1) :=
  (Table.mem_operators hentry).trans (Table.spelling_of_ofSpellings h _)

/-- Among the entries of a table no two are longest, so the longest is longer than the others. -/
lemma longest_iff_isLongest (h : Table.ofSpellings s = .ok table) {entry : Operator × Text} :
    Longest (table.operators caseless) line entry ↔
      s.IsLongest caseless line entry.1 ∧ entry.2 = s.text (.operator entry.1) := by
  constructor
  · intro hlongest
    have hactive := (Table.mem_operators_iff.1 hlongest.mem).1
    have htext := text_of_mem_operators h hlongest.mem
    refine ⟨⟨hactive, htext ▸ hlongest.begins, fun other hother hbegin hne => ?_⟩, htext⟩
    have hmem := mem_operators_of_isActive h hother
    rw [← htext]
    refine Nat.lt_of_le_of_ne (hlongest.longest _ hmem hbegin) fun hlength => ?_
    -- another one of the same length would be longest as well
    have hother : Longest (table.operators caseless) line (other, s.text (.operator other)) :=
      ⟨hmem, hbegin, fun third hthird hline =>
        Nat.le_trans (hlongest.longest third hthird hline) (Nat.le_of_eq hlength.symm)⟩
    exact hne (congrArg Prod.fst (hother.eq (table.distinct_operators caseless) hlongest))
  · rintro ⟨⟨hactive, hbegin, hlongest⟩, htext⟩
    obtain ⟨o, text⟩ := entry
    obtain rfl : text = s.text (.operator o) := htext
    refine ⟨mem_operators_of_isActive h hactive, hbegin, fun other hother hline => ?_⟩
    have hactive' := (Table.mem_operators_iff.1 hother).1
    rw [text_of_mem_operators h hother] at hline ⊢
    by_cases hsame : other.1 = o
    · rw [hsame]
    · exact Nat.le_of_lt (hlongest other.1 hactive' hline hsame)

lemma recognize_eq_ok_iff (h : Table.ofSpellings s = .ok table) {l : Lexeme} :
    recognize table caseless line = .ok l ↔
      ∃ o, s.IsLongest caseless line o ∧
        l = { kind := .operator o.canonical, text := s.text (.operator o) } := by
  unfold recognize recognizeAmong
  constructor
  · intro hok
    split at hok
    · rename_i o text hfound
      obtain rfl := Except.ok.inj hok
      obtain ⟨hlongest, htext⟩ := (longest_iff_isLongest h).1 (longest_of_longest? hfound)
      exact ⟨o, hlongest, by rw [← htext]⟩
    · cases hok
  · rintro ⟨o, hlongest, rfl⟩
    have hfound : Longest (table.operators caseless) line (o, s.text (.operator o)) :=
      (longest_iff_isLongest h).2 ⟨hlongest, rfl⟩
    rw [longest?_of_longest (table.distinct_operators caseless) hfound]

lemma recognize_eq_error_iff (h : Table.ofSpellings s = .ok table) {fault : Fault} :
    recognize table caseless line = .error fault ↔
      fault = .noToken line ∧
        ∀ o : Operator, o.IsActive caseless → ¬ s.text (.operator o) <+: line := by
  have hnone : longest? (table.operators caseless) line = none ↔
      ∀ o : Operator, o.IsActive caseless → ¬ s.text (.operator o) <+: line := by
    rw [longest?_eq_none_iff (table.distinct_operators caseless)]
    constructor
    · intro hnot o ho
      exact hnot _ (mem_operators_of_isActive h ho)
    · intro hnot entry hentry
      rw [text_of_mem_operators h hentry]
      exact hnot entry.1 (Table.mem_operators_iff.1 hentry).1
  unfold recognize recognizeAmong
  rw [← hnone]
  split
  · rename_i hfound
    simp [hfound]
  · rename_i hfound
    simp [hfound, eq_comm]

/-- On its own text an operator is recognized: no other one that begins there is as long. -/
lemma isLongest_self (h : Table.ofSpellings s = .ok table) {o : Operator}
    (ho : o.IsActive caseless) : s.IsLongest caseless (s.text (.operator o)) o := by
  have hlongest : Longest (table.operators caseless) (s.text (.operator o))
      (o, s.text (.operator o)) :=
    ⟨mem_operators_of_isActive h ho, List.prefix_rfl, fun _ _ hbegin => hbegin.length_le⟩
  exact ((longest_iff_isLongest h).1 hlongest).1

/-- **Operators are recognized by the longest match.**  Let any accepted choice of spellings be
given, and let the caseless comparisons take part or not.  A line is refused exactly if no operator
that takes part begins it.  Else the one with the longest text is found, and no other that begins the
line has a text as long; it is reported with its text, as the operator that it counts as.  The order
of the entries does not matter, and every operator that takes part is found on its own text. -/
theorem recognize_longest {s : Spellings} {table : Table} (h : Table.ofSpellings s = .ok table)
    (caseless : Bool) :
    (∀ line fault, recognize table caseless line = .error fault ↔
      fault = .noToken line ∧
        ∀ o : Operator, o.IsActive caseless → ¬ s.text (.operator o) <+: line) ∧
    (∀ line l, recognize table caseless line = .ok l ↔
      ∃ o, s.IsLongest caseless line o ∧
        l = { kind := .operator o.canonical, text := s.text (.operator o) }) ∧
    (∀ line entries, entries.Perm (table.operators caseless) →
      recognizeAmong entries line = recognize table caseless line) ∧
    ∀ o : Operator, o.IsActive caseless →
      recognize table caseless (s.text (.operator o)) =
        .ok { kind := .operator o.canonical, text := s.text (.operator o) } := by
  refine ⟨fun line fault => recognize_eq_error_iff h, fun line l => recognize_eq_ok_iff h, ?_, ?_⟩
  · intro line entries hperm
    unfold recognize recognizeAmong
    rw [longest?_perm (table.distinct_operators caseless) hperm]
  · intro o ho
    exact (recognize_eq_ok_iff h).2 ⟨o, isLongest_self h ho, rfl⟩

/-- A text that lies between those of two other operators, the same with the entries in reverse, a
comparison written with a capital, and a line on which no operator stands. -/
theorem recognize_longest_between :
    ∃ (s : Spellings) (table : Table), Table.ofSpellings s = .ok table ∧
      s.text (.operator .semicolon) = "!=i".toList ∧
      recognize table true "!=i b".toList =
        .ok { kind := .operator .semicolon, text := "!=i".toList } ∧
      recognizeAmong (table.operators true).reverse "!=i b".toList =
        .ok { kind := .operator .semicolon, text := "!=i".toList } ∧
      recognize table true "!=I=".toList =
        .ok { kind := .operator .caselessNotEqual, text := "!=I=".toList } ∧
      recognize table false "#".toList = .error (.noToken "#".toList) := by
  let s : Spellings := Spellings.standard.set (.operator .semicolon) (some "!=i".toList)
  have hfault : s.fault? = none := by decide +kernel
  have htable := Table.ofSpellings_of_faultless hfault
  have hbetween : s.IsLongest true "!=i b".toList .semicolon := by
    refine ⟨Or.inl rfl, by decide, fun other _ hbegin hne => ?_⟩
    revert hbegin hne
    cases other <;> decide
  have hnone : ∀ o : Operator, ¬ s.text (.operator o) <+: "#".toList := by
    intro o
    cases o <;> decide
  obtain ⟨-, hfound, hperm, hself⟩ := recognize_longest htable true
  have hsemicolon := (hfound "!=i b".toList _).2 ⟨.semicolon, hbetween, rfl⟩
  refine ⟨s, _, htable, rfl, hsemicolon, ?_, hself .caselessNotEqualUpper (Or.inl rfl), ?_⟩
  · exact (hperm _ _ (List.reverse_perm _)).trans hsemicolon
  · exact ((recognize_longest htable false).1 _ _).2 ⟨rfl, fun o _ => hnone o⟩

end Symbol

end ScriptLexer
