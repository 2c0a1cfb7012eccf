import ScriptLexer.Text.Basic

/-!
# Names

A name is made of ASCII letters, digits and underscores and does not begin with a digit.  No other
letters take part, so a name looks the same in every encoding that contains ASCII.
-/

namespace ScriptLexer.Name

/-- Whether a character may begin a name. -/
def isStart (c : Char) : Bool := c.isAlpha || c == '_'

/-- Whether a character is a decimal digit. -/
def isDigit (c : Char) : Bool := c.isDigit

/-- Whether a character may continue a name. -/
def isPart (c : Char) : Bool := isStart c || isDigit c

/-- Whether a whole text is a name. -/
def isValid : Text → Bool
  | [] => false
  | c :: r => isStart c && r.all isPart

theorem isPart_of_isStart {c : Char} (h : isStart c) : isPart c := by
  simp [isPart, h]

/-- Whether a text begins as a name does. -/
def begins : Text → Bool
  | [] => false
  | c :: _ => isStart c

/-- The first character of a text and the characters after it that continue a name. -/
def leading : Text → Text
  | [] => []
  | c :: r => c :: r.takeWhile isPart

/-- The leading name of a text is a beginning of it. -/
theorem leading_isPrefix (t : Text) : leading t <+: t := by
  cases t with
  | nil => exact List.prefix_rfl
  | cons c r => exact List.cons_prefix_cons.2 ⟨rfl, List.takeWhile_prefix _⟩

end ScriptLexer.Name
