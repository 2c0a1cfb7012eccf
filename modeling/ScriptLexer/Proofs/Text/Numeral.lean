import Mathlib.Algebra.Group.Nat.Defs
import Mathlib.Data.List.Basic
import ScriptLexer.Text.Numeral

/-!
# Numbers and their digits

A number written with a fixed number of hexadecimal digits is read back from these digits if it is
small enough for them.  An integer in decimal is told apart from all others, and is made of digits and
at most a minus sign.
-/

namespace ScriptLexer.Numeral

lemma digit?_digitChar {d : Nat} (h : d < 16) : digit? (Nat.digitChar d) = some d := by
  have hall : ∀ k < 16, digit? (Nat.digitChar k) = some k := by decide
  exact hall d h

lemma value_concat (base : Nat) (digits : Text) (c : Char) :
    value base (digits ++ [c]) = base * value base digits + (digit? c).getD 0 := by
  simp [value, List.foldl_append]

/-- The digits of a number denote what is left of it when the digits in front are cut off. -/
lemma value_hex (width n : Nat) : value 16 (hex width n) = n % 16 ^ width := by
  induction width generalizing n with
  | zero => simp [hex, value, Nat.mod_one]
  | succ width ih =>
    rw [hex, value_concat, ih, digit?_digitChar (Nat.mod_lt n (by decide)), Option.getD_some,
      Nat.pow_succ', Nat.mod_mul]
    omega

lemma value_hex_of_lt {width n : Nat} (h : n < 16 ^ width) : value 16 (hex width n) = n := by
  rw [value_hex, Nat.mod_eq_of_lt h]

lemma mem_hex {width n : Nat} {c : Char} (h : c ∈ hex width n) :
    ∃ d < 16, c = Nat.digitChar d := by
  induction width generalizing n with
  | zero => simp [hex] at h
  | succ width ih =>
    rw [hex, List.mem_append, List.mem_singleton] at h
    rcases h with h | h
    · exact ih h
    · exact ⟨n % 16, Nat.mod_lt n (by decide), h⟩

lemma isDigitOf_of_mem_hex {width n : Nat} {c : Char} (h : c ∈ hex width n) :
    isDigitOf 16 c = true := by
  obtain ⟨d, hd, rfl⟩ := mem_hex h
  rw [isDigitOf, digit?_digitChar hd]
  simpa using hd

/-! ## Decimal numbers -/

lemma isDigit_of_mem_decimal {n : Nat} {c : Char} (h : c ∈ decimal n) : c.isDigit = true :=
  Nat.isDigit_of_mem_toDigits (by decide) (Nat.le_refl 10) h

lemma decimal_injective : Function.Injective decimal := by
  intro m n h
  have hvalue := congrArg (fun digits => Nat.ofDigitChars 10 digits 0) h
  simpa [decimal] using hvalue

lemma mem_integer {n : Int} {c : Char} (h : c ∈ integer n) : c = '-' ∨ c.isDigit = true := by
  cases n with
  | ofNat n => exact Or.inr (isDigit_of_mem_decimal h)
  | negSucc n => exact (List.mem_cons.1 h).imp_right isDigit_of_mem_decimal

/-- A number without a sign does not begin with one. -/
lemma decimal_ne_minus {n : Nat} (digits : Text) : decimal n ≠ '-' :: digits := by
  intro h
  have hdigit := isDigit_of_mem_decimal (n := n) (c := '-') (by simp [h])
  exact absurd hdigit (by decide)

lemma integer_injective : Function.Injective integer := by
  intro m n h
  cases m with
  | ofNat m =>
    cases n with
    | ofNat n => exact congrArg Int.ofNat (decimal_injective h)
    | negSucc n => exact absurd h (decimal_ne_minus _)
  | negSucc m =>
    cases n with
    | ofNat n => exact absurd h.symm (decimal_ne_minus _)
    | negSucc n =>
      have hsucc := decimal_injective (List.cons.inj h).2
      rw [Nat.add_right_cancel hsucc]

end ScriptLexer.Numeral
