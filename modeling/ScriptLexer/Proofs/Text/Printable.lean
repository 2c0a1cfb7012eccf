import Mathlib.Data.List.Basic
import ScriptLexer.Text.Printable

/-!
# Facts about printable code points

The printable code points contain those of ASCII from the space to the tilde.  They contain neither
controls nor surrogates, so each of them is a character.
-/

namespace ScriptLexer

lemma isPrintable_of_ascii {n : Nat} (hlow : 0x20 ≤ n) (hhigh : n < 0x7F) :
    isPrintable n = true := by
  have hranges : ∀ range ∈ unprintableRanges, range.2 < 0x20 ∨ 0x7F ≤ range.1 := by decide +kernel
  simp only [isPrintable, Bool.not_eq_true', List.any_eq_false, Bool.and_eq_true,
    decide_eq_true_eq]
  intro range hrange
  have hout := hranges range hrange
  omega

/-- A printable code point lies outside each range of the table. -/
lemma lt_or_lt_of_isPrintable {n lo hi : Nat} (h : isPrintable n = true)
    (hmem : (lo, hi) ∈ unprintableRanges) : n < lo ∨ hi < n := by
  simp only [isPrintable, Bool.not_eq_true', List.any_eq_false, Bool.and_eq_true,
    decide_eq_true_eq] at h
  have hout := h (lo, hi) hmem
  omega

lemma not_control_of_isPrintable {n : Nat} (h : isPrintable n = true) :
    0x20 ≤ n ∧ ¬ (0x7F ≤ n ∧ n ≤ 0x9F) := by
  have hfirst := lt_or_lt_of_isPrintable h (show (0x0, 0x1F) ∈ _ by decide +kernel)
  have hsecond := lt_or_lt_of_isPrintable h (show (0x7F, 0xA0) ∈ _ by decide +kernel)
  omega

lemma not_surrogate_of_isPrintable {n : Nat} (h : isPrintable n = true) :
    ¬ (0xD800 ≤ n ∧ n ≤ 0xDFFF) := by
  have hout := lt_or_lt_of_isPrintable h (show (0xD7FC, 0xF8FF) ∈ _ by decide +kernel)
  omega

/-- A printable code point is a character. -/
lemma isValidChar_of_isPrintable {p : CodePoint} (h : isPrintable p.val = true) :
    p.val.isValidChar := by
  have hout := not_surrogate_of_isPrintable h
  have hlt := p.isLt
  unfold Nat.isValidChar
  omega

lemma ofChar_ofNat_of_isPrintable {p : CodePoint} (h : isPrintable p.val = true) :
    CodePoint.ofChar (Char.ofNat p.val) = p := by
  apply Fin.ext
  rw [CodePoint.val_ofChar, Char.ofNat, dif_pos (isValidChar_of_isPrintable h)]
  rfl

end ScriptLexer
