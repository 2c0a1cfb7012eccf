import ScriptLexer.Proofs.Text.Blank

/-!
# Names at the start of a line

The leading name of a line is the longest beginning of it that is made of name characters.  A name is
found again in front of anything that it does not go on into: the end of the line, a blank, or any
other character that is no part of a name.
-/

namespace ScriptLexer

/-- No name goes on into a break. -/
lemma Text.Breaks.isPart_eq_false {rest : Text} (h : rest.Breaks) {c : Char}
    (hc : rest.head? = some c) : Name.isPart c = false := by
  refine Bool.eq_false_iff.2 fun hpart => ?_
  exact h.head?_ne (isBlank_eq_false_of_isPart hpart) hc

namespace Name

variable {name rest line : Text}

/-! ## The characters of a name -/

lemma ne_of_isPart {c d : Char} (h : isPart c = true) (hd : isPart d = false) : c ≠ d := by
  rintro rfl
  rw [h] at hd
  cases hd

lemma isDigit_eq_false_of_isStart {c : Char} (h : isStart c = true) : isDigit c = false := by
  refine Bool.eq_false_iff.2 fun hdigit => ?_
  obtain ⟨hlow, -⟩ := toNat_of_isStart h
  obtain ⟨-, hhigh⟩ := toNat_of_isDigit hdigit
  omega

lemma isPart_of_mem_of_isValid (h : isValid name = true) : ∀ c ∈ name, isPart c = true := by
  cases name with
  | nil => simp
  | cons c t =>
    obtain ⟨hstart, hparts⟩ := Bool.and_eq_true_iff.1 h
    exact List.forall_mem_cons.2 ⟨isPart_of_isStart hstart, List.all_eq_true.1 hparts⟩

lemma solid_of_isValid (h : isValid name = true) : name.Solid := by
  refine Text.Solid.of_forall ?_ fun c hc =>
    isBlank_eq_false_of_isPart (isPart_of_mem_of_isValid h c hc)
  rintro rfl
  cases h

/-! ## Where a name begins -/

lemma begins_of_isValid (h : isValid name = true) : begins name = true := by
  cases name with
  | nil => cases h
  | cons c t => exact (Bool.and_eq_true_iff.1 h).1

lemma begins_append (h : begins name = true) (rest : Text) : begins (name ++ rest) = true := by
  cases name with
  | nil => cases h
  | cons c t => exact h

lemma begins_append_eq_false {t : Text} (h : begins line = false) (hne : t ≠ [])
    (ht : t <+: line) : begins (t ++ rest) = false := by
  obtain ⟨u, rfl⟩ := ht
  obtain ⟨c, t, rfl⟩ := List.exists_cons_of_ne_nil hne
  exact h

/-! ## The leading name -/

lemma leading_eq_takeWhile (h : begins line = true) : leading line = line.takeWhile isPart := by
  cases line with
  | nil => rfl
  | cons c t => exact (List.takeWhile_cons_of_pos (isPart_of_isStart h)).symm

lemma isValid_leading (h : begins line = true) : isValid (leading line) = true := by
  cases line with
  | nil => simp [begins] at h
  | cons c t =>
    simp only [leading, isValid, Bool.and_eq_true, List.all_eq_true]
    exact ⟨h, fun _ hd => List.mem_takeWhile_imp hd⟩

lemma takeWhile_isPart_eq_nil (h : ∀ c, rest.head? = some c → isPart c = false) :
    rest.takeWhile isPart = [] := by
  cases rest with
  | nil => rfl
  | cons c rest => exact List.takeWhile_cons_of_neg (by simp [h c rfl])

/-- A name is found again where it does not go on. -/
lemma leading_append_of_isValid (h : isValid name = true)
    (hrest : ∀ c, rest.head? = some c → isPart c = false) : leading (name ++ rest) = name := by
  rw [leading_eq_takeWhile (begins_append (begins_of_isValid h) rest),
    List.takeWhile_append_of_pos (isPart_of_mem_of_isValid h), takeWhile_isPart_eq_nil hrest,
    List.append_nil]

lemma leading_of_isValid (h : isValid name = true) : leading name = name := by
  have hrest : ∀ c, ([] : Text).head? = some c → isPart c = false := nofun
  simpa using leading_append_of_isValid h hrest

/-- The name in front of a break is the same. -/
lemma leading_append_of_breaks (h : begins line = true) (hrest : rest.Breaks) :
    leading (leading line ++ rest) = leading line :=
  leading_append_of_isValid (isValid_leading h) fun _ hc => hrest.isPart_eq_false hc

/-- The longest beginning of a line that is made of characters of names. -/
structure Longest (line name : Text) : Prop where
  isPrefix : name <+: line
  parts : ∀ c ∈ name, isPart c = true
  longest : ∀ t, t <+: line → (∀ c ∈ t, isPart c = true) → t.length ≤ name.length

lemma longest_leading (h : begins line = true) : Longest line (leading line) where
  isPrefix := leading_isPrefix line
  parts := isPart_of_mem_of_isValid (isValid_leading h)
  longest t ht hparts := by
    obtain ⟨u, rfl⟩ := ht
    rw [leading_eq_takeWhile h, List.takeWhile_append_of_pos hparts]
    exact (List.prefix_append t _).length_le

/-- There is one longest beginning. -/
lemma Longest.eq {name' : Text} (h : Longest line name) (h' : Longest line name') :
    name = name' := by
  have hlength : name.length = name'.length :=
    Nat.le_antisymm (h'.longest name h.isPrefix h.parts) (h.longest name' h'.isPrefix h'.parts)
  have hsame : name <+: name' :=
    List.prefix_of_prefix_length_le h.isPrefix h'.isPrefix (Nat.le_of_eq hlength)
  exact hsame.eq_of_length hlength

end Name

end ScriptLexer
