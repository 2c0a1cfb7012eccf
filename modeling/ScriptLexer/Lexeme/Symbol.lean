import ScriptLexer.Lexeme.Basic
import ScriptLexer.Table

/-!
# Operators on a line

Of the operators whose texts begin the line the one with the longest text is taken, so `!=` is never
read as `!` and `=`.  The texts of a table differ, hence no two matches have the same length and the
order of the table does not matter.
-/

namespace ScriptLexer.Symbol

/-- The longer of the match so far and an entry, if the entry's text begins the line. -/
def better (line : Text) (best : Option (Operator × Text)) (entry : Operator × Text) :
    Option (Operator × Text) :=
  if entry.2.isPrefixOf line && (best.elim 0 (·.2.length)) < entry.2.length then some entry
  else best

/-- The entry with the longest text that begins the line. -/
def longest? (entries : List (Operator × Text)) (line : Text) : Option (Operator × Text) :=
  entries.foldl (better line) none

/-- Cuts off the operator at the start of a line, if there is one. -/
def read? (table : Table) (caseless : Bool) (line : Text) : Option Lexeme :=
  (longest? (table.operators caseless) line).map fun (o, text) =>
    { kind := .operator o.canonical, text }

theorem longest?_mem {entries : List (Operator × Text)} {line : Text} {entry : Operator × Text}
    (h : longest? entries line = some entry) : entry ∈ entries ∧ entry.2 <+: line := by
  suffices ∀ best, entries.foldl (better line) best = some entry →
      (∀ e, best = some e → e.2 <+: line) →
      (best = some entry ∨ entry ∈ entries) ∧ entry.2 <+: line by
    simpa using this none h (by simp)
  intro best hbest hline
  clear h
  induction entries generalizing best with
  | nil => exact ⟨.inl hbest, hline _ hbest⟩
  | cons e entries ih =>
    have next := ih (better line best e) hbest (by
      intro e' he'
      unfold better at he'
      split at he'
      · rename_i hlong
        cases he'
        simp only [Bool.and_eq_true, List.isPrefixOf_iff_prefix] at hlong
        exact hlong.1
      · exact hline _ he')
    refine ⟨?_, next.2⟩
    rcases next.1 with he | he
    · unfold better at he
      split at he
      · cases he
        exact .inr List.mem_cons_self
      · exact .inl he
    · exact .inr (List.mem_cons_of_mem _ he)

end ScriptLexer.Symbol
