import ScriptLexer.Literal
import ScriptLexer.Text.Printable

/-!
# Writing string literals

A value is written as a literal in which every character can be seen: the enclosing quote is
doubled, characters with a name after a backslash take it, other controls are written with two
hexadecimal digits and everything else unprintable with eight.  Eight digits are as many as the form
allows, so a digit that follows is not drawn into the number.
-/

namespace ScriptLexer.Literal

/-- What a written value is enclosed in. -/
inductive Delimiter where
  /-- Nothing. -/
  | bare
  /-- One of the quotes. -/
  | quote (q : Quote)
  /-- A double and a single quote, at either end. -/
  | both
deriving DecidableEq, Repr

namespace Delimiter

/-- The delimiter as text. -/
def text : Delimiter → Text
  | .bare => []
  | .quote q => [q.char]
  | .both => [Quote.double.char, Quote.single.char]

/-- The delimiter that a text is. -/
def ofText? (t : Text) : Option Delimiter :=
  [.bare, .quote .double, .quote .single, .both].find? fun d => d.text == t

/-- The wording for a text that is no delimiter. -/
def refusal (t : Text) : Text := "invalid quote character " ++ Quoted.ofText t

end Delimiter

/-- The character that names a code point after a backslash.  Quotes have a name too, but are
written doubled or as they stand. -/
def escapeName? (p : CodePoint) : Option Char :=
  (Escape.named.find? fun (name, meaning) =>
    (Quote.ofChar? name).isNone && meaning.toNat == p.val).map Prod.fst

/-- One code point of a written value. -/
def writeItem (d : Delimiter) (p : CodePoint) : Text :=
  if Text.codePoints d.text = [p] then d.text ++ d.text
  else
    match escapeName? p with
    | some name => ['\\', name]
    | none =>
      if p.val < 0x20 ∨ p.val = 0x7F then "\\x" ++ Numeral.hex 2 p.val
      else if isPrintable p.val then [Char.ofNat p.val]
      else "\\U" ++ Numeral.hex 8 p.val

/-- A value as a literal. -/
def write (d : Delimiter) (value : List CodePoint) : Text :=
  d.text ++ value.flatMap (writeItem d) ++ d.text

end ScriptLexer.Literal
