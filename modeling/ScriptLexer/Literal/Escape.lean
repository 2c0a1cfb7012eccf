import ScriptLexer.Text.Numeral

/-!
# Escape sequences

Inside a string literal a backslash begins an escape sequence.  It is a single character that has a
meaning of its own, or a code point in octal, decimal or hexadecimal digits.  As many digits are
read as the form allows, so a sequence ends where the next character is no digit or the form is
full.
-/

namespace ScriptLexer.Escape

/-- The characters with a meaning of their own after a backslash, each with what it stands for. -/
def named : List (Char × Char) :=
  [('"', '"'), ('\'', '\''), ('\\', '\\'), ('a', '\x07'), ('b', '\x08'), ('f', '\x0c'),
    ('n', '\n'), ('r', '\r'), ('t', '\t'), ('v', '\x0b'), ('e', '\x1b')]

/-- How a code point is given by its digits. -/
inductive NumericForm where
  | octal | decimal | hex | shortUnicode | longUnicode
deriving DecidableEq, Repr

namespace NumericForm

/-- The form that a character after the backslash introduces. -/
def ofIntroducer? (c : Char) : Option NumericForm :=
  if c = '0' ∨ c = 'o' then some .octal
  else if '1' ≤ c ∧ c ≤ '9' then some .decimal
  else if c = 'x' then some .hex
  else if c = 'u' then some .shortUnicode
  else if c = 'U' then some .longUnicode
  else none

/-- The base of the digits. -/
def base : NumericForm → Nat
  | .octal => 8
  | .decimal => 10
  | .hex | .shortUnicode | .longUnicode => 16

/-- The greatest number of digits. -/
def maxDigits : NumericForm → Nat
  | .octal | .decimal => 3
  | .hex => 2
  | .shortUnicode => 4
  | .longUnicode => 8

/-- The name of the form in messages. -/
def name : NumericForm → Text
  | .octal => "octal"
  | .decimal => "decimal"
  | .hex => "hex"
  | .shortUnicode | .longUnicode => "Unicode hex"

/-- Where the digits begin, in a text that begins with the introducer: a decimal form is introduced
by its first digit, the others by a character that is not part of the number. -/
def fromIntroducer (form : NumericForm) (t : Text) : Text :=
  match form with
  | .decimal => t
  | _ => t.drop 1

/-- The digits of the form at the start of a text. -/
def digits (form : NumericForm) (t : Text) : Text :=
  (t.take form.maxDigits).takeWhile (Numeral.isDigitOf form.base)

end NumericForm

/-- Why an escape sequence is refused. -/
inductive Fault where
  /-- The line ends after the backslash. -/
  | endOfLine
  /-- A numeric form has no digit. -/
  | noDigits (form : NumericForm)
  /-- The number is no code point. -/
  | tooLarge (form : NumericForm) (value : Nat)
  /-- The character after the backslash means nothing. -/
  | unknown (c : Char)
deriving DecidableEq, Repr

/-- Reads a number in the given form, off a text that begins with the introducer. -/
def readNumeric (form : NumericForm) (t : Text) : Except Fault (CodePoint × Text) :=
  let source := form.fromIntroducer t
  let digits := form.digits source
  let value := Numeral.value form.base digits
  if digits = [] then .error (.noDigits form)
  else if h : value < 0x110000 then .ok (⟨value, h⟩, source.drop digits.length)
  else .error (.tooLarge form value)

/-- Reads an escape sequence off the text after its backslash: the code point and what follows. -/
def read : Text → Except Fault (CodePoint × Text)
  | [] => .error .endOfLine
  | c :: r =>
    match named.lookup c with
    | some meaning => .ok (CodePoint.ofChar meaning, r)
    | none =>
      match NumericForm.ofIntroducer? c with
      | some form => readNumeric form (c :: r)
      | none => .error (.unknown c)

theorem NumericForm.fromIntroducer_suffix (form : NumericForm) (t : Text) :
    form.fromIntroducer t <:+ t := by
  cases form with
  | decimal => exact List.suffix_rfl
  | _ => exact List.drop_suffix 1 t

/-- What follows an escape sequence is a suffix. -/
theorem suffix_of_read {t rest : Text} {p : CodePoint} (h : read t = .ok (p, rest)) :
    rest <:+ t := by
  unfold read at h
  split at h
  · cases h
  · split at h
    · cases h
      exact List.suffix_cons _ _
    · split at h
      · rename_i form _
        unfold readNumeric at h
        simp only at h
        split at h
        · cases h
        · split at h
          · cases h
            exact (List.drop_suffix _ _).trans (form.fromIntroducer_suffix _)
          · cases h
      · cases h

end ScriptLexer.Escape
