import Mathlib.Data.List.TakeWhile
import ScriptLexer.Text.Ansi

/-!
# What is left without control sequences

A control sequence is an escape character and printable ASCII characters behind it.  So a text from which
control sequences are left out keeps every other character, line feeds among them, and a text without an
escape character stays as it is.  `strip` leaves nothing out but control sequences.
-/

namespace ScriptLexer.Ansi

lemma inRange_trans {first first' last last' c : Char} (hfirst : first ≤ first')
    (hlast : last' ≤ last) (h : inRange first' last' c = true) : inRange first last c = true := by
  rw [inRange, Bool.and_eq_true, decide_eq_true_eq, decide_eq_true_eq] at h ⊢
  exact ⟨Char.le_trans hfirst h.1, Char.le_trans h.2 hlast⟩

/-! ## Leaving out any control sequences -/

/-- Behind its escape character, a control sequence is made of characters from the space to the tilde. -/
lemma IsSequence.exists_cons {s : Text} (h : IsSequence s) :
    ∃ r, s = '\x1b' :: r ∧ ∀ c ∈ r, inRange ' ' '~' c = true := by
  obtain ⟨parameters, intermediates, final, rfl, hparameters, hintermediates, hfinal⟩ := h
  refine ⟨_, rfl, fun c hc => ?_⟩
  rw [List.mem_cons, List.mem_append, List.mem_append, List.mem_singleton] at hc
  rcases hc with rfl | (hc | hc) | rfl
  · decide
  · exact inRange_trans (by decide) (by decide) (hparameters c hc)
  · exact inRange_trans (by decide) (by decide) (hintermediates c hc)
  · exact inRange_trans (by decide) (by decide) hfinal

/-- Nothing needs to be left out. -/
lemma Leaves.refl (t : Text) : Leaves t t := by
  induction t with
  | nil => exact .nil
  | cons c t ih => exact .keep c ih

lemma Leaves.eq_of_notMem {t shown : Text} (h : Leaves t shown) (hescape : '\x1b' ∉ t) :
    shown = t := by
  induction h with
  | nil => rfl
  | keep c h ih => rw [ih fun hmem => hescape (List.mem_cons_of_mem c hmem)]
  | drop hs h ih =>
    obtain ⟨r, rfl, -⟩ := hs.exists_cons
    exact absurd List.mem_cons_self hescape

/-- A character that belongs to no control sequence is left wherever it stands. -/
lemma Leaves.count_eq {t shown : Text} (h : Leaves t shown) {c : Char} (hescape : c ≠ '\x1b')
    (hc : inRange ' ' '~' c = false) : shown.count c = t.count c := by
  induction h with
  | nil => rfl
  | keep d h ih => rw [List.count_cons, List.count_cons, ih]
  | drop hs h ih =>
    obtain ⟨r, rfl, hr⟩ := hs.exists_cons
    have hnone : r.count c = 0 := by
      refine List.count_eq_zero.2 fun hmem => ?_
      rw [hr c hmem] at hc
      cases hc
    rw [ih, List.count_append, List.count_cons_of_ne (Ne.symm hescape), hnone, Nat.zero_add]

/-! ## Leaving out all of them -/

lemma exists_sequence_of_afterSequence? {t r : Text} (h : afterSequence? t = some r) :
    ∃ s, IsSequence ('\x1b' :: '[' :: s) ∧ t = s ++ r := by
  unfold afterSequence? at h
  split at h
  case h_2 => cases h
  case h_1 final r' hrest =>
    split_ifs at h with hfinal
    obtain rfl := Option.some.inj h
    have hparameters := List.takeWhile_append_dropWhile (p := inRange '0' '?') (l := t)
    have hintermediates := List.takeWhile_append_dropWhile (p := inRange ' ' '/')
      (l := t.dropWhile (inRange '0' '?'))
    rw [hrest] at hintermediates
    rw [← hintermediates] at hparameters
    refine ⟨_, ⟨t.takeWhile (inRange '0' '?'),
      (t.dropWhile (inRange '0' '?')).takeWhile (inRange ' ' '/'), final, rfl,
      fun c => List.mem_takeWhile_imp, fun c => List.mem_takeWhile_imp, hfinal⟩, ?_⟩
    simpa using hparameters.symm

lemma leaves_strip (t : Text) : Leaves t (strip t) := by
  fun_induction strip t with
  | case1 => exact .nil
  | case2 r rest hrest ih =>
    obtain ⟨s, hs, rfl⟩ := exists_sequence_of_afterSequence? hrest
    exact .drop hs ih
  | case3 r hrest ih => exact .keep _ ih
  | case4 c r hplain ih => exact .keep c ih

end ScriptLexer.Ansi
