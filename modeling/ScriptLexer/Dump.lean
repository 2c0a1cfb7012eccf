import ScriptLexer.Literal.Writer
import ScriptLexer.Token

/-!
# The token dump

A token is shown on one line as its line number, kind and text, with colons between.  A string
literal is followed by its value, written as a literal again so that everything in it can be seen.
-/

namespace ScriptLexer.Dump

/-- The fields of a token. -/
def fields (t : Token) : Text :=
  let value : Text :=
    if t.kind = .stringLiteral then ":" ++ Literal.write (.quote .double) t.value else []
  Numeral.integer t.location.line ++ ":" ++ t.kind.name ++ ":" ++ t.text ++ value

/-- The mark in front of a token: a star if it starts a line. -/
def lineMark (t : Token) : Char := if t.startsLine then '*' else ' '

/-- A token as a line of the dump, behind its mark if marks are asked for. -/
def line (marks : Bool) (t : Token) : Text := if marks then lineMark t :: fields t else fields t

end ScriptLexer.Dump
