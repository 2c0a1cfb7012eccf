import ScriptLexer.Text.Numeral
import ScriptLexer.Text.Printable

/-!
# Quoted text

Texts shown inside messages stand in quotes with everything unprintable escaped, so that a message
is one line and the ends of the text can be seen.  Apostrophes enclose the text unless it holds an
apostrophe and no double quote.
-/

namespace ScriptLexer.Quoted

/-- The character that encloses a shown text. -/
def enclosing (t : List CodePoint) : Char :=
  if t.contains (CodePoint.ofChar '\'') && !t.contains (CodePoint.ofChar '"') then '"' else '\''

/-- One code point inside the enclosing character `quote`.  An unprintable one is written in
hexadecimal, in the least of the widths two, four and eight that has room for it. -/
def item (quote : Char) (p : CodePoint) : Text :=
  if p.val = quote.toNat ∨ p.val = '\\'.toNat then ['\\', Char.ofNat p.val]
  else if p.val = '\t'.toNat then "\\t"
  else if p.val = '\n'.toNat then "\\n"
  else if p.val = '\r'.toNat then "\\r"
  else if isPrintable p.val then [Char.ofNat p.val]
  else if p.val ≤ 0xFF then "\\x" ++ Numeral.hex 2 p.val
  else if p.val ≤ 0xFFFF then "\\u" ++ Numeral.hex 4 p.val
  else "\\U" ++ Numeral.hex 8 p.val

/-- A value in quotes. -/
def ofCodePoints (t : List CodePoint) : Text :=
  enclosing t :: t.flatMap (item (enclosing t)) ++ [enclosing t]

/-- A text in quotes. -/
def ofText (t : Text) : Text := ofCodePoints (Text.codePoints t)

end ScriptLexer.Quoted
