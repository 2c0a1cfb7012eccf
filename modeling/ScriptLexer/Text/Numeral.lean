import ScriptLexer.Text.Basic

/-!
# Numerals

Numbers are written in decimal or upper-case hexadecimal with the fewest digits, or in lower-case
hexadecimal with a fixed number of them.  Digits are read in any base up to sixteen, in either case.
-/

namespace ScriptLexer.Numeral

/-- A number in decimal. -/
def decimal (n : Nat) : Text := Nat.toDigits 10 n

/-- An integer in decimal, a minus sign in front of a negative one. -/
def integer : Int → Text
  | .ofNat n => decimal n
  | .negSucc n => '-' :: decimal (n + 1)

/-- The last `width` digits of a number in lower-case hexadecimal, zeros in front included. -/
def hex : (width n : Nat) → Text
  | 0, _ => []
  | width + 1, n => hex width (n / 16) ++ [Nat.digitChar (n % 16)]

@[simp] theorem length_hex (width n : Nat) : (hex width n).length = width := by
  induction width generalizing n with
  | zero => rfl
  | succ width ih => simp [hex, ih]

/-- A number in upper-case hexadecimal. -/
def upperHex (n : Nat) : Text := (Nat.toDigits 16 n).map Char.toUpper

/-- The value of a digit, the letters of both cases counting from ten. -/
def digit? (c : Char) : Option Nat :=
  if '0' ≤ c ∧ c ≤ '9' then some (c.toNat - '0'.toNat)
  else if 'a' ≤ c ∧ c ≤ 'f' then some (c.toNat - 'a'.toNat + 10)
  else if 'A' ≤ c ∧ c ≤ 'F' then some (c.toNat - 'A'.toNat + 10)
  else none

/-- Whether a character is a digit of the base. -/
def isDigitOf (base : Nat) (c : Char) : Bool :=
  match digit? c with
  | some d => d < base
  | none => false

/-- The number that digits denote in a base, the most significant first. -/
def value (base : Nat) (digits : Text) : Nat :=
  digits.foldl (fun n c => base * n + (digit? c).getD 0) 0

end ScriptLexer.Numeral
