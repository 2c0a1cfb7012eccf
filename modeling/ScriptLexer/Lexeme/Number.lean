import ScriptLexer.Lexeme.Basic
import ScriptLexer.Name

/-!
# Numbers

A number is recognized by its shape alone.  It begins with a digit, or with a dot and a digit, and
goes on over name characters and single dots.  Two dots in a row belong to no number, so that the
range `1..5` is three tokens.
-/

namespace ScriptLexer.Number

/-- Whether a number begins here. -/
def begins : Text → Bool
  | [] => false
  | [c] => Name.isDigit c
  | c :: d :: _ => Name.isDigit c || c == '.' && Name.isDigit d

/-- Whether a text begins with two dots. -/
def doubleDot : Text → Bool
  | c :: d :: _ => c == '.' && d == '.'
  | _ => false

/-- The part of a text that continues a number. -/
def continuation : Text → Text
  | [] => []
  | c :: r =>
    if doubleDot (c :: r) then []
    else if c = '.' ∨ Name.isPart c then c :: continuation r
    else []

/-- The number at the start of a text; its first character is taken without a look at it. -/
def leading : Text → Text
  | [] => []
  | c :: r => if doubleDot (c :: r) then [] else c :: continuation r

/-- A number with a dot in it has a fraction. -/
def kind (text : Text) : Kind := if text.contains '.' then .floatLiteral else .intLiteral

/-- The number at the start of a line as a lexeme. -/
def lexeme (line : Text) : Lexeme := { kind := kind (leading line), text := leading line }

/-- Cuts off the number at the start of a line.  An empty line holds none. -/
def read? (line : Text) : Option Lexeme := if line = [] then none else some (lexeme line)

/-- The wording for an empty line, on which no number can be looked for. -/
def noneMessage : Text := "string index out of range"

theorem continuation_isPrefix (t : Text) : continuation t <+: t := by
  fun_induction continuation t with
  | case1 => exact List.prefix_rfl
  | case2 => exact List.nil_prefix
  | case3 c r _ _ ih => exact List.cons_prefix_cons.2 ⟨rfl, ih⟩
  | case4 => exact List.nil_prefix

/-- The leading number of a text is a beginning of it. -/
theorem leading_isPrefix (t : Text) : leading t <+: t := by
  unfold leading
  split
  · exact List.prefix_rfl
  · split
    · exact List.nil_prefix
    · exact List.cons_prefix_cons.2 ⟨rfl, continuation_isPrefix _⟩

/-- Where a number begins, one is found. -/
theorem leading_ne_nil {t : Text} (h : begins t) : leading t ≠ [] := by
  match t with
  | [c] => simp [leading, doubleDot]
  | c :: d :: r =>
    have apart : ¬ (c = '.' ∧ d = '.') := by
      rintro ⟨rfl, rfl⟩
      simp [begins, Name.isDigit] at h
    simp [leading, doubleDot]
    exact fun hc hd => apart ⟨hc, hd⟩

end ScriptLexer.Number
