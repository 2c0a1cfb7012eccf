import ScriptLexer.Cursor.Next
import ScriptLexer.Proofs.Lexeme.Boundary
import ScriptLexer.Proofs.Lexeme.MaximalNumber
import ScriptLexer.Proofs.Lexeme.Word

/-!
# The shapes of lexemes

Each kind has a shape: what the text of such a token may be, for a given table, and which value goes
with it.  Every lexeme that is cut off a line has the shape of its kind.  The forms of lexemes are
tried in a fixed order, but the shape of a text does not depend on what the earlier forms left over;
each form vouches for its own kinds.
-/

namespace ScriptLexer

/-- The text of a number. -/
structure Number.Shape (t : Text) : Prop where
  /-- It begins with a digit, or with a dot and a digit. -/
  start : ∃ d rest, Name.isDigit d = true ∧ (t = d :: rest ∨ t = '.' :: d :: rest)
  /-- It is made of dots and name characters. -/
  parts : ∀ c ∈ t, c = '.' ∨ Name.isPart c = true
  /-- It holds no two dots in a row. -/
  apart : ¬ ['.', '.'] <:+: t

/-- The operator that is spelled with a capital and counts as this one. -/
def Operator.capital? : Operator → Option Operator
  | .caselessEqual => some .caselessEqualUpper
  | .caselessNotEqual => some .caselessNotEqualUpper
  | _ => none

/-- What the text of a token of some kind may be, and the value that goes with it. -/
def Kind.Shape (table : Table) (caseless : Bool) (text : Text) (value : List CodePoint) :
    Kind → Prop
  | .stringLiteral =>
    ∃ l : Literal, Literal.read? text = some (.ok l) ∧ l.raw = text ∧ l.value = value
  | .intLiteral => Number.Shape text ∧ '.' ∉ text ∧ value = []
  | .floatLiteral => Number.Shape text ∧ '.' ∈ text ∧ value = []
  | .identifier =>
    Name.isValid text = true ∧ (∀ k : Keyword, text ≠ table.spelling (.keyword k)) ∧
      (['_', '_'] <+: text → text = "__STACK__".toList) ∧ value = []
  | .keyword k => text = table.spelling (.keyword k) ∧ value = []
  | .operator o =>
    (text = table.spelling (.operator o) ∨
        ∃ o', o.capital? = some o' ∧ text = table.spelling (.operator o')) ∧
      o ≠ .caselessEqualUpper ∧ o ≠ .caselessNotEqualUpper ∧
      (caseless = false → o ≠ .caselessEqual ∧ o ≠ .caselessNotEqual) ∧ value = []
  | .endOfFile => text = endText ∧ value = []
  | .emptyLine => False

/-- The lexeme has the shape of its kind. -/
def Lexeme.WellFormed (table : Table) (caseless : Bool) (l : Lexeme) : Prop :=
  l.kind.Shape table caseless l.text l.value

/-! ## String literals -/

/-- A literal is read again from its own text, and nothing is left. -/
lemma Literal.read?_raw {line : Text} {l : Literal} (h : read? line = some (.ok l)) :
    read? l.raw = some (.ok l) := by
  have hraw := read?_append_of_breaks h Text.breaks_nil
  rwa [List.append_nil] at hraw

/-! ## Numbers -/

namespace Number

lemma exists_digit_of_begins {t : Text} (h : begins t = true) :
    ∃ d rest, Name.isDigit d = true ∧ (t = d :: rest ∨ t = '.' :: d :: rest) := by
  match t with
  | [] => simp [begins] at h
  | [c] => exact ⟨c, [], h, Or.inl rfl⟩
  | c :: d :: r =>
    simp only [begins, Bool.or_eq_true, Bool.and_eq_true, beq_iff_eq] at h
    rcases h with hc | ⟨rfl, hd⟩
    · exact ⟨c, d :: r, hc, Or.inl rfl⟩
    · exact ⟨d, r, hd, Or.inr rfl⟩

lemma shape_leading {t : Text} (h : begins t = true) : Shape (leading t) := by
  obtain ⟨rest, -, hcut⟩ := exists_cut_leading h
  have hbegins := begins_leading_append h []
  rw [List.append_nil] at hbegins
  exact ⟨exists_digit_of_begins hbegins, hcut.parts, hcut.apart⟩

lemma wellFormed_lexeme (table : Table) (caseless : Bool) {line : Text}
    (h : begins line = true) : (lexeme line).WellFormed table caseless := by
  have hshape := shape_leading h
  unfold Lexeme.WellFormed lexeme
  by_cases hdot : '.' ∈ leading line
  · rw [kind_of_mem hdot]
    exact ⟨hshape, hdot, rfl⟩
  · rw [kind_of_not_mem hdot]
    exact ⟨hshape, hdot, rfl⟩

end Number

/-! ## Names and keywords -/

lemma Word.wellFormed_of_read? {table : Table} {line : Text} {l : Lexeme} (caseless : Bool)
    (hbegins : Name.begins line = true) (h : read? table line = some l) :
    l.WellFormed table caseless := by
  simp only [read?, Option.ite_none_left_eq_some, Option.some.injEq] at h
  obtain ⟨hallowed, rfl⟩ := h
  unfold Lexeme.WellFormed kind
  cases hkeyword : table.keyword? (Name.leading line) with
  | some k => exact ⟨(Table.spelling_of_keyword? hkeyword).symm, rfl⟩
  | none =>
    refine ⟨Name.isValid_leading hbegins, fun k hk => ?_, fun hstart => ?_, rfl⟩
    · exact Table.keyword?_eq_none_iff.1 hkeyword k hk.symm
    · by_contra hname
      exact hallowed (isReserved_iff.2 ⟨hstart, hname⟩)

/-! ## Operators -/

/-- An operator is reported as itself, or as the one whose twin it is. -/
lemma Operator.eq_canonical_or_capital (o : Operator) :
    o = o.canonical ∨ o.canonical.capital? = some o := by
  cases o <;> simp [canonical, capital?]

lemma Operator.canonical_ne_upper (o : Operator) :
    o.canonical ≠ .caselessEqualUpper ∧ o.canonical ≠ .caselessNotEqualUpper := by
  cases o <;> simp [canonical]

lemma Symbol.wellFormed_of_read? {table : Table} {caseless : Bool} {line : Text} {l : Lexeme}
    (h : read? table caseless line = some l) : l.WellFormed table caseless := by
  obtain ⟨⟨o, text⟩, hlongest, rfl⟩ := Option.map_eq_some_iff.1 h
  obtain ⟨hmem, -⟩ := longest?_mem hlongest
  have htext : text = table.spelling (.operator o) := Table.mem_operators hmem
  obtain ⟨hequal, hnotEqual⟩ := o.canonical_ne_upper
  refine ⟨?_, hequal, hnotEqual, ?_, rfl⟩
  · rcases o.eq_canonical_or_capital with hsame | hcapital
    · left
      rw [← hsame]
      exact htext
    · exact Or.inr ⟨o, hcapital, htext⟩
  · -- with the caseless comparisons off, none of them is an entry
    rintro rfl
    obtain ⟨o', hentry, heq⟩ := List.mem_map.1 hmem
    obtain rfl : o' = o := congrArg Prod.fst heq
    have hcase : o'.canonical.isCaseless = false := by
      simpa using (List.mem_filter.1 hentry).2
    constructor
    · intro hkind
      rw [hkind] at hcase
      cases hcase
    · intro hkind
      rw [hkind] at hcase
      cases hcase

/-! ## All lexemes -/

/-- Every lexeme that is cut off a line is well formed. -/
theorem Lexeme.wellFormed_of_read {table : Table} {caseless : Bool} {line : Text} {l : Lexeme}
    (h : read table caseless line = .ok l) : l.WellFormed table caseless := by
  cases form_of_read h with
  | @literal literal hliteral => exact ⟨literal, Literal.read?_raw hliteral, rfl, rfl⟩
  | number _ hnumber => exact Number.wellFormed_lexeme table caseless hnumber
  | word _ _ hname hword => exact Word.wellFormed_of_read? caseless hname hword
  | symbol _ _ _ hsymbol => exact Symbol.wellFormed_of_read? hsymbol

end ScriptLexer
