/-!
# Text

Script text is a list of characters, so that a recognizer is a function on lists and what it leaves
is a suffix.  The value of a string literal is not text in this sense: an escape may name any code
point, surrogates included, and these are no characters.  Such a value is a list of code points.

So a line, an argument or a file name with a lone surrogate in it is not represented.
-/

namespace ScriptLexer

/-- A piece of text, character by character. -/
abbrev Text := List Char

instance : Coe String Text := ⟨String.toList⟩

/-- A code point of Unicode, surrogates included. -/
abbrev CodePoint := Fin 0x110000

/-- The code point of a character. -/
def CodePoint.ofChar (c : Char) : CodePoint :=
  ⟨c.toNat, by
    have h : c.toNat < 0xD800 ∨ 0xDFFF < c.toNat ∧ c.toNat < 0x110000 := c.valid
    omega⟩

@[simp] theorem CodePoint.val_ofChar (c : Char) : (CodePoint.ofChar c).val = c.toNat := rfl

/-- The code points of a text, in order. -/
def Text.codePoints (t : Text) : List CodePoint := t.map CodePoint.ofChar

/-- The parts of a text between the occurrences of a separator, at least one. -/
def Text.parts (separator : Char) : Text → List Text
  | [] => [[]]
  | d :: r =>
    if d = separator then [] :: parts separator r
    else
      match parts separator r with
      | [] => [[d]]
      | part :: parts => (d :: part) :: parts

/-- The parts with `separator` between each two. -/
def Text.join (separator : Text) : List Text → Text
  | [] => []
  | [part] => part
  | part :: parts => part ++ separator ++ join separator parts

end ScriptLexer
