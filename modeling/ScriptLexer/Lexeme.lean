import ScriptLexer.Fault
import ScriptLexer.Lexeme.Number
import ScriptLexer.Lexeme.Symbol
import ScriptLexer.Lexeme.Word

/-!
# Cutting a lexeme off a line

A line without comments in front is tried as a string literal, a number, a word and an operator, in
this order.  The first form that begins there is taken, and if it turns out faulty no later form is
tried.
-/

namespace ScriptLexer.Lexeme

/-- Cuts off the lexeme at the start of a line. -/
def read (table : Table) (caseless : Bool) (line : Text) : Except Fault Lexeme :=
  match Literal.read? line with
  | some (.ok l) => .ok { kind := .stringLiteral, text := l.raw, value := l.value }
  | some (.error fault) => .error (.literal fault line)
  | none =>
    if Number.begins line then .ok (Number.lexeme line)
    else if Name.begins line then
      match Word.read? table line with
      | some l => .ok l
      | none => .error (.reservedName (Name.leading line))
    else
      match Symbol.read? table caseless line with
      | some l => .ok l
      | none => .error (.noToken line)

/-- A lexeme is a beginning of the line, and takes something off it. -/
theorem text_of_read {table : Table} {caseless : Bool} {line : Text} {l : Lexeme}
    (h : read table caseless line = .ok l) : l.text ≠ [] ∧ l.text <+: line := by
  unfold read at h
  split at h
  · rename_i literal hl
    cases h
    exact Literal.raw_of_read? hl
  · cases h
  · split at h
    · rename_i hnumber
      cases h
      exact ⟨Number.leading_ne_nil hnumber, Number.leading_isPrefix line⟩
    · split at h
      · rename_i hname
        split at h
        · rename_i word hword
          cases h
          simp only [Word.read?, Option.ite_none_left_eq_some, Option.some.injEq] at hword
          obtain ⟨_, rfl⟩ := hword
          refine ⟨?_, Name.leading_isPrefix line⟩
          cases line with
          | nil => cases hname
          | cons c r => simp [Name.leading]
        · cases h
      · split at h
        · rename_i symbol hsymbol
          cases h
          obtain ⟨⟨o, text⟩, hlongest, rfl⟩ := Option.map_eq_some_iff.1 hsymbol
          obtain ⟨hmem, hbegin⟩ := Symbol.longest?_mem hlongest
          obtain ⟨o', _, ho⟩ := List.mem_map.1 hmem
          cases ho
          exact ⟨table.spelling_ne_nil _, hbegin⟩
        · cases h

end ScriptLexer.Lexeme
