import ScriptLexer.Text.Basic

/-!
# Blanks

Blanks separate tokens and are dropped at both ends of a line.  They are the characters that
Unicode calls white space, together with the four separators U+001C to U+001F.  The byte order mark
U+FEFF and the zero width space U+200B are none of them.
-/

namespace ScriptLexer

/-- The blanks, as ranges of code points with both ends included. -/
def blankRanges : List (Nat × Nat) :=
  [(0x9, 0xD), (0x1C, 0x20), (0x85, 0x85), (0xA0, 0xA0), (0x1680, 0x1680), (0x2000, 0x200A),
    (0x2028, 0x2029), (0x202F, 0x202F), (0x205F, 0x205F), (0x3000, 0x3000)]

/-- Whether a character is a blank. -/
def isBlank (c : Char) : Bool :=
  blankRanges.any fun range => range.1 ≤ c.toNat && c.toNat ≤ range.2

namespace Text

/-- The text without the blanks at its start. -/
def trimStart (t : Text) : Text := t.dropWhile isBlank

/-- The text without the blanks at its end. -/
def trimEnd (t : Text) : Text := (trimStart t.reverse).reverse

/-- The text without the blanks at either end. -/
def trim (t : Text) : Text := trimEnd (trimStart t)

@[simp] theorem trimStart_nil : trimStart [] = [] := rfl

/-- Dropping blanks leaves a suffix. -/
theorem trimStart_suffix (t : Text) : trimStart t <:+ t := List.dropWhile_suffix _

theorem length_trimStart_le (t : Text) : (trimStart t).length ≤ t.length :=
  (trimStart_suffix t).length_le

theorem length_trim_le (t : Text) : (trim t).length ≤ t.length := by
  have outer := length_trimStart_le (trimStart t).reverse
  have inner := length_trimStart_le t
  simp only [trim, trimEnd, List.length_reverse] at *
  omega

end Text

end ScriptLexer
