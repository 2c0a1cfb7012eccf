import ScriptLexer.Lexeme.Basic
import ScriptLexer.Text.Quoted

/-!
# Tokens and their places

A token is a lexeme together with the line it came from and a flag that tells whether it is the
first of that line.  The language has no other mark for the end of a statement, so a closing curly
bracket and the end of the source carry the flag wherever they stand.
-/

namespace ScriptLexer

/-- A line of a named source.  Lines are counted from one; a place made by a caller may have any
number. -/
structure Location where
  /-- The name of the source. -/
  file : Text
  /-- The number of the line. -/
  line : Int
deriving DecidableEq, Repr

/-- A place as it stands in messages. -/
def Location.render (l : Location) : Text := l.file ++ ":" ++ Numeral.integer l.line

/-- A lexeme at its place. -/
structure Token extends Lexeme where
  /-- Where the token was found. -/
  location : Location
  /-- Whether it is the first token of its line, or ends a block or the source. -/
  startsLine : Bool := false
deriving DecidableEq, Repr

/-- A token in full, for debugging: its kind, its text and a string literal's value, its place. -/
def Token.render (t : Token) : Text :=
  let value : Text :=
    if t.kind = .stringLiteral then " -> " ++ Quoted.ofCodePoints t.value else []
  "Token(" ++ t.kind.name ++ ", " ++ Quoted.ofText t.text ++ value ++ ", " ++ t.location.render ++
    ")"

end ScriptLexer
