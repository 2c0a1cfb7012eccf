import ScriptLexer.Lexeme
import ScriptLexer.Proofs.Lexeme.Name
import ScriptLexer.Proofs.Lexeme.Number
import ScriptLexer.Proofs.Lexeme.Symbol
import ScriptLexer.Proofs.Literal.Grammar

/-!
# Lexemes in front of a break

A lexeme that was cut off a line is cut off again when a break is put behind its text, whatever
stood there before.  No other form begins at the text now: to tell the forms apart at most two
characters are looked at, and the second of these is a character of the text or of the break.

The statements about single forms are in the order in which the forms are tried, and
`Lexeme.read_append_of_breaks` puts them together.
-/

namespace ScriptLexer

/-! ## String literals -/

lemma Quote.isBlank_char (q : Quote) : isBlank q.char = false := by
  cases q <;> decide

namespace Literal

lemma read?_eq_none_iff {line : Text} : read? line = none ↔ Opening.read? line = none :=
  Option.map_eq_none_iff

/-- A literal is read again in front of a break. -/
lemma read?_append_of_breaks {line rest : Text} {l : Literal} (h : read? line = some (.ok l))
    (hrest : rest.Breaks) : read? (l.raw ++ rest) = some (.ok l) := by
  obtain ⟨hspelled, -⟩ := standsAt_of_read? h
  exact read?_of_standsAt ⟨hspelled, rest, rfl, hrest.head?_ne l.quote.isBlank_char⟩

/-- Where no literal begins, none begins at a piece of the line in front of a break. -/
lemma read?_append_eq_none {t line rest : Text} (h : read? line = none) (hne : t ≠ [])
    (ht : t <+: line) (hrest : rest.Breaks) : read? (t ++ rest) = none := by
  rw [read?_eq_none_iff] at h ⊢
  refine Option.eq_none_iff_forall_ne_some.2 fun ⟨o, inner⟩ hread => ?_
  obtain ⟨opener, hopener, hinner⟩ := opening_spelled_of_read? hread
  -- the opener would begin the line as well
  have hline : ∀ u, line ≠ opener ++ u := by
    rintro u rfl
    simp [opening_read?_append hopener] at h
  rcases Text.look_ahead hne ht hrest with ⟨c, d, u, v, rfl, htext⟩ | ⟨c, u, v, rfl, htext, hv⟩
  · rw [htext] at hinner
    cases hopener with
    | quoted q =>
      obtain ⟨rfl, -⟩ := List.cons.inj hinner
      exact hline (d :: u) rfl
    | verbatim _ =>
      obtain ⟨rfl, htail⟩ := List.cons.inj hinner
      obtain ⟨rfl, -⟩ := List.cons.inj htail
      exact hline u rfl
  · rw [htext] at hinner
    cases hopener with
    | quoted q =>
      obtain ⟨rfl, -⟩ := List.cons.inj hinner
      exact hline u rfl
    | @verbatim q _ _ =>
      obtain ⟨-, rfl⟩ := List.cons.inj hinner
      exact hv.head?_ne q.isBlank_char rfl

lemma solid_raw {l : Literal} (h : l.Spelled) : l.raw.Solid := by
  cases h with
  | @mk o opener items value hopener hitems =>
    have hclose : Text.Solid [o.quote.char] :=
      Text.Solid.of_forall (by simp) (by simp [Quote.isBlank_char])
    refine Text.Solid.append ?_ hclose items
    cases hopener with
    | quoted q => exact hclose
    | @verbatim q lead hlead =>
      have hblank : isBlank lead = false := by rcases hlead with rfl | rfl <;> decide
      exact Text.Solid.of_forall (by simp) (by simp [hblank, Quote.isBlank_char])

end Literal

/-! ## Words -/

namespace Word

lemma text_of_read? {table : Table} {line : Text} {l : Lexeme} (h : read? table line = some l) :
    l.text = Name.leading line := by
  simp only [read?, Option.ite_none_left_eq_some, Option.some.injEq] at h
  obtain ⟨-, rfl⟩ := h
  rfl

/-- A word is read again in front of a break. -/
lemma read?_append_of_breaks {table : Table} {line rest : Text} {l : Lexeme}
    (hbegins : Name.begins line = true) (h : read? table line = some l) (hrest : rest.Breaks) :
    read? table (l.text ++ rest) = some l := by
  simp only [read?, Option.ite_none_left_eq_some, Option.some.injEq] at h
  obtain ⟨hallowed, rfl⟩ := h
  simp only [read?, Name.leading_append_of_breaks hbegins hrest, if_neg hallowed]

end Word

/-! ## Lexemes -/

namespace Lexeme

/-- The forms in which a lexeme begins a line, each where no earlier form does. -/
inductive Form (table : Table) (caseless : Bool) (line : Text) : Lexeme → Prop
  | literal {l : Literal} :
      Literal.read? line = some (.ok l) →
        Form table caseless line { kind := .stringLiteral, text := l.raw, value := l.value }
  | number :
      Literal.read? line = none → Number.begins line = true →
        Form table caseless line (Number.lexeme line)
  | word {l : Lexeme} :
      Literal.read? line = none → Number.begins line = false → Name.begins line = true →
        Word.read? table line = some l → Form table caseless line l
  | symbol {l : Lexeme} :
      Literal.read? line = none → Number.begins line = false → Name.begins line = false →
        Symbol.read? table caseless line = some l → Form table caseless line l

variable {table : Table} {caseless : Bool} {line : Text} {l : Lexeme}

lemma form_of_read (h : read table caseless line = .ok l) : Form table caseless line l := by
  unfold read at h
  split at h
  · rename_i literal hliteral
    obtain rfl := Except.ok.inj h
    exact Form.literal hliteral
  · simp at h
  · rename_i hliteral
    split_ifs at h with hnumber hname
    · obtain rfl := Except.ok.inj h
      exact Form.number hliteral hnumber
    · split at h
      · rename_i word hword
        obtain rfl := Except.ok.inj h
        exact Form.word hliteral (Bool.eq_false_iff.2 hnumber) hname hword
      · simp at h
    · split at h
      · rename_i symbol hsymbol
        obtain rfl := Except.ok.inj h
        exact Form.symbol hliteral (Bool.eq_false_iff.2 hnumber) (Bool.eq_false_iff.2 hname) hsymbol
      · simp at h

lemma read_of_form (h : Form table caseless line l) : read table caseless line = .ok l := by
  unfold read
  cases h with
  | literal hliteral => rw [hliteral]
  | number hliteral hnumber => simp only [hliteral, hnumber, if_true]
  | word hliteral hnumber hname hword =>
    simp only [hliteral, hnumber, hname, hword, if_true, Bool.false_eq_true, if_false]
  | symbol hliteral hnumber hname hsymbol =>
    simp only [hliteral, hnumber, hname, hsymbol, Bool.false_eq_true, if_false]

/-- The text of a lexeme has no blank at its ends. -/
lemma solid_of_read (htable : table.Blankless) (h : read table caseless line = .ok l) :
    l.text.Solid := by
  cases form_of_read h with
  | literal hliteral => exact Literal.solid_raw (Literal.standsAt_of_read? hliteral).1
  | number _ hnumber => exact Number.solid_leading hnumber
  | word _ _ hname hword =>
    rw [Word.text_of_read? hword]
    exact Name.solid_of_isValid (Name.isValid_leading hname)
  | symbol _ _ _ hsymbol => exact Symbol.solid_of_read? htable hsymbol

/-- A lexeme is cut off again when a break is put behind it. -/
lemma read_append_of_breaks {rest : Text} (htable : table.Blankless)
    (h : read table caseless line = .ok l) (hrest : rest.Breaks) :
    read table caseless (l.text ++ rest) = .ok l := by
  obtain ⟨hne, hbegin⟩ := text_of_read h
  refine read_of_form ?_
  cases form_of_read h with
  | literal hliteral => exact Form.literal (Literal.read?_append_of_breaks hliteral hrest)
  | number hliteral hnumber =>
    have hform : Form table caseless ((Number.lexeme line).text ++ rest)
        (Number.lexeme ((Number.lexeme line).text ++ rest)) :=
      Form.number (Literal.read?_append_eq_none hliteral hne hbegin hrest)
        (Number.begins_leading_append hnumber rest)
    rw [Number.lexeme_append_of_breaks hnumber hrest] at hform
    exact hform
  | word hliteral hnumber hname hword =>
    refine Form.word (Literal.read?_append_eq_none hliteral hne hbegin hrest)
      (Number.begins_append_eq_false hnumber hne hbegin hrest) ?_
      (Word.read?_append_of_breaks hname hword hrest)
    rw [Word.text_of_read? hword]
    exact Name.begins_append (Name.begins_of_isValid (Name.isValid_leading hname)) rest
  | symbol hliteral hnumber hname hsymbol =>
    exact Form.symbol (Literal.read?_append_eq_none hliteral hne hbegin hrest)
      (Number.begins_append_eq_false hnumber hne hbegin hrest)
      (Name.begins_append_eq_false hname hne hbegin)
      (Symbol.read?_append_of_breaks htable hsymbol hrest)

end Lexeme

end ScriptLexer
