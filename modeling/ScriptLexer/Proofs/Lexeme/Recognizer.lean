import ScriptLexer.Proofs.Lexeme.Guarded

/-!
# Words and operators on their own

The two recognizers that may refuse what begins a line, each with the fault that it reports.  A
lexeme is read by them wherever neither a literal nor a number begins.
-/

namespace ScriptLexer

/-- The word at the start of a line.  A keyword gets the text that the table has for it; a name that
may not be used is refused. -/
def Word.recognize (table : Table) (line : Text) : Except Fault Lexeme :=
  match readSpelled? table line with
  | some l => .ok l
  | none => .error (.reservedName (Name.leading line))

namespace Symbol

/-- The operator at the start of a line, by the given entries.  It is reported as the operator that
it counts as; a line is refused if no entry begins it. -/
def recognizeAmong (entries : List (Operator × Text)) (line : Text) : Except Fault Lexeme :=
  match longest? entries line with
  | some (o, text) => .ok { kind := .operator o.canonical, text }
  | none => .error (.noToken line)

/-- The operator at the start of a line, by the entries of a table. -/
def recognize (table : Table) (caseless : Bool) (line : Text) : Except Fault Lexeme :=
  recognizeAmong (table.operators caseless) line

end Symbol

lemma Literal.read?_eq_none_of_begins {line : Text} (h : begins line = false) :
    read? line = none := by
  rw [← isSome_read?] at h
  exact Option.isNone_iff_eq_none.1 (Option.isSome_eq_false_iff.1 h)

/-- Where neither a literal nor a number begins, a name decides which of the two is asked. -/
lemma Lexeme.read_eq_recognize (table : Table) (caseless : Bool) {line : Text}
    (hliteral : Literal.begins line = false) (hnumber : Number.begins line = false) :
    read table caseless line =
      if Name.begins line = true then Word.recognize table line
      else Symbol.recognize table caseless line := by
  unfold read
  rw [Literal.read?_eq_none_of_begins hliteral, ← Word.readSpelled?_eq]
  simp only [hnumber, Bool.false_eq_true, if_false]
  split_ifs with hname
  · rfl
  · unfold Symbol.recognize Symbol.recognizeAmong Symbol.read?
    cases Symbol.longest? (table.operators caseless) line <;> rfl

end ScriptLexer
