import ScriptLexer.Kind

/-!
# Lexemes

A lexeme is what a recognizer cuts off a line: a kind, the text consumed and, for a string literal,
the value that the text denotes.
-/

namespace ScriptLexer

/-- A piece of a line that forms a token. -/
structure Lexeme where
  /-- What it is. -/
  kind : Kind
  /-- The text it was cut from, as written. -/
  text : Text
  /-- The value of a string literal, empty for every other kind. -/
  value : List CodePoint := []
deriving DecidableEq, Repr

end ScriptLexer
