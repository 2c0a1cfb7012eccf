import ScriptLexer.Text.Basic

/-!
# UTF-8

Bytes are decoded strictly: no overlong forms, no surrogates, nothing beyond U+10FFFF.  The lead
byte of a character fixes how many bytes follow it and, through the range allowed for the first of
them, excludes the forms that would be too long, too large or surrogates.  Decoding stops at the
first byte that no character can hold at its place.
-/

namespace ScriptLexer.Utf8

/-- Why a byte sequence is not UTF-8. -/
inductive Fault where
  /-- A byte that begins no character stands where a character begins. -/
  | startByte
  /-- A byte inside a character is outside the range allowed there. -/
  | continuationByte
  /-- The bytes end inside a character. -/
  | endOfData
deriving DecidableEq, Repr

/-- The wording of a fault. -/
def Fault.reason : Fault → Text
  | .startByte => "invalid start byte"
  | .continuationByte => "invalid continuation byte"
  | .endOfData => "unexpected end of data"

/-- What a lead byte tells about its character. -/
structure Lead where
  /-- The most significant bits of the code point. -/
  bits : Nat
  /-- How many bytes follow. -/
  following : Nat
  /-- The least value of the first following byte. -/
  least : Nat := 0x80
  /-- The greatest value of the first following byte. -/
  greatest : Nat := 0xBF

/-- Reads a lead byte.  The bytes from 80 to C1 and from F5 on begin no character. -/
def Lead.ofByte? (b : UInt8) : Option Lead :=
  let n := b.toNat
  if n < 0x80 then some { bits := n, following := 0 }
  else if n < 0xC2 then none
  else if n < 0xE0 then some { bits := n - 0xC0, following := 1 }
  else if n < 0xF0 then
    some { bits := n - 0xE0, following := 2,
           least := if n = 0xE0 then 0xA0 else 0x80,
           greatest := if n = 0xED then 0x9F else 0xBF }
  else if n < 0xF5 then
    some { bits := n - 0xF0, following := 3,
           least := if n = 0xF0 then 0x90 else 0x80,
           greatest := if n = 0xF4 then 0x8F else 0xBF }
  else none

/-- Reads `count` following bytes, the first of them between `least` and `greatest`, and joins
their bits to those read so far. -/
def following (least greatest : Nat) : (count : Nat) → (bits : Nat) → List UInt8 →
    Except Fault (Nat × List UInt8)
  | 0, bits, r => .ok (bits, r)
  | _ + 1, _, [] => .error .endOfData
  | count + 1, bits, b :: r =>
    if least ≤ b.toNat ∧ b.toNat ≤ greatest then
      following 0x80 0xBF count (64 * bits + (b.toNat - 0x80)) r
    else .error .continuationByte

theorem length_of_following {least greatest count bits n : Nat} {bytes rest : List UInt8}
    (h : following least greatest count bits bytes = .ok (n, rest)) :
    rest.length ≤ bytes.length := by
  induction count generalizing least greatest bits bytes with
  | zero => cases h; exact Nat.le_refl _
  | succ count ih =>
    cases bytes with
    | nil => cases h
    | cons b r =>
      rw [following] at h
      split at h
      · exact Nat.le_succ_of_le (ih h)
      · cases h

/-- The text that the bytes encode. -/
def decode : List UInt8 → Except Fault Text
  | [] => .ok []
  | b :: r =>
    match Lead.ofByte? b with
    | none => .error .startByte
    | some lead =>
      match _ : following lead.least lead.greatest lead.following lead.bits r with
      | .error fault => .error fault
      | .ok (n, rest) =>
        match decode rest with
        | .error fault => .error fault
        | .ok t => .ok (Char.ofNat n :: t)
termination_by bytes => bytes.length
decreasing_by
  rename_i h
  exact Nat.lt_succ_of_le (length_of_following h)

/-- A text has at most as many characters as its bytes. -/
theorem length_of_decode {bytes : List UInt8} {t : Text} (h : decode bytes = .ok t) :
    t.length ≤ bytes.length := by
  fun_induction decode bytes generalizing t with
  | case1 => cases h; exact Nat.le_refl _
  | case2 => cases h
  | case3 => cases h
  | case4 => cases h
  | case5 b r lead _ n rest hrest t' _ ih =>
    cases h
    have := ih (by assumption)
    have := length_of_following hrest
    simp only [List.length_cons]
    omega

end ScriptLexer.Utf8
