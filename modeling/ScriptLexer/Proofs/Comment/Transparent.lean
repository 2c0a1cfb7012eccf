import ScriptLexer.Proofs.Comment.Reached

/-!
# What stands behind comments

Passing over a gap leads to the place behind it, whatever stands there (`reached_skip_gap`).  In
particular a complete comment (`Complete`) can be put in front of any text or taken away.

A comment that goes on over several lines is read line by line, without the blanks at the ends of the
lines.  Such a line leads from one mode to another (`reached_skip_trim`), and a comment can be cut in
two at each of its blanks (`Inside.split`), the line feeds among them.
-/

namespace ScriptLexer.Comment

variable {m m' : Mode} {t : Text}

/-! ## Leaving a comment, mark by mark -/

lemma leave_nil (m : Mode) : leave m [] = (m, []) := by
  cases m <;> rfl

lemma leave_openPair (extra : Nat) (t : Text) :
    leave (.nested extra) ('/' :: '+' :: t) = leave (.nested (extra + 1)) t := by
  simp [leave, afterNested]

lemma leave_closePair (extra : Nat) (t : Text) :
    leave (.nested (extra + 1)) ('+' :: '/' :: t) = leave (.nested extra) t := by
  simp [leave, afterNested]

/-- A character that begins no mark is passed over. -/
lemma leave_plain {a : Char} (hm : m.isOpen = true) (hmark : m.atMark (a :: t) = false) :
    leave m (a :: t) = leave m t := by
  cases m with
  | outside => simp [Mode.isOpen] at hm
  | block =>
    cases t with
    | nil => rfl
    | cons b t =>
      rw [← Bool.not_eq_true, Mode.atMark_block_iff] at hmark
      simp only [leave, afterBlock?, if_neg hmark]
  | nested extra =>
    cases t with
    | nil => rfl
    | cons b t =>
      rw [← Bool.not_eq_true, Mode.atMark_nested_iff, not_or] at hmark
      simp only [leave, afterNested, if_neg hmark.1, if_neg hmark.2]

/-- No mark begins with a blank. -/
lemma Mode.atMark_of_isBlank {a : Char} (ha : isBlank a = true) (t : Text) :
    m.atMark (a :: t) = false := by
  refine Bool.eq_false_iff.2 fun hat => ?_
  cases t with
  | nil => simp at hat
  | cons b t =>
    cases m with
    | outside => simp [Mode.atMark, Mode.marks] at hat
    | block =>
      obtain ⟨rfl, -⟩ := Mode.atMark_block_iff.1 hat
      exact absurd ha (by decide)
    | nested extra =>
      rcases Mode.atMark_nested_iff.1 hat with ⟨rfl, -⟩ | ⟨rfl, -⟩
      · exact absurd ha (by decide)
      · exact absurd ha (by decide)

/-- Blanks at the start make no difference inside a comment. -/
lemma leave_trimStart (hm : m.isOpen = true) (t : Text) : leave m (Text.trimStart t) = leave m t := by
  obtain ⟨b, ht, hb⟩ := Text.exists_blanks_append_trimStart t
  have hblanks : ∀ r, leave m (b ++ r) = leave m r := by
    intro r
    clear ht
    induction b with
    | nil => rfl
    | cons a b ih =>
      obtain ⟨ha, hb⟩ := List.forall_mem_cons.1 hb
      rw [List.cons_append, leave_plain hm (Mode.atMark_of_isBlank ha _), ih hb]
  rw [← hblanks, ← ht]

/-- Behind the mark that closes the comment everything is left. -/
lemma leave_append_of_inside (h : Inside m t .outside) (hm : m.isOpen = true) (r : Text) :
    leave m (t ++ r) = (.outside, Text.trimStart r) := by
  generalize hend : Mode.outside = m' at h
  induction h with
  | nil m =>
    subst hend
    simp [Mode.isOpen] at hm
  | endBlock => simp [leave, afterBlock?]
  | endNested => simp [leave, afterNested]
  | openPair _ ih => rw [List.cons_append, List.cons_append, leave_openPair, ih rfl hend]
  | closePair _ ih => rw [List.cons_append, List.cons_append, leave_closePair, ih rfl hend]
  | @plain m m' a t _ hmark ht ih =>
    subst hend
    rw [← Mode.atMark_append (ht.ne_nil hm) r] at hmark
    rw [List.cons_append, leave_plain hm hmark, ih hm rfl]

/-- Nothing is left of a text in which the comment stays open. -/
lemma leave_of_inside (h : Inside m t m') (hm' : m'.isOpen = true) : leave m t = (m', []) := by
  induction h with
  | nil m => exact leave_nil m
  | endBlock => simp [Mode.isOpen] at hm'
  | endNested => simp [Mode.isOpen] at hm'
  | openPair _ ih => rw [leave_openPair, ih hm']
  | closePair _ ih => rw [leave_closePair, ih hm']
  | plain hm hmark _ ih => rw [leave_plain hm hmark, ih hm']

/-! ## Passing over gaps -/

lemma reached_skip_trimStart (hm : m.isOpen = true) (t : Text) :
    (skip m (Text.trimStart t)).reached = (skip m t).reached := by
  rw [reached_skip m, reached_skip m, leave_trimStart hm]

lemma Form.isOpen_opened (form : Form) : form.opened.isOpen = true := by
  cases form <;> rfl

lemma reached_skip_openingMark (form : Form) (t : Text) :
    (skip .outside (form.openingMark ++ t)).reached = (skip form.opened t).reached := by
  rw [reached_skip_outside]
  cases form <;> rfl

lemma trimStart_openingMark (form : Form) (t : Text) :
    Text.trimStart (form.openingMark ++ t) = form.openingMark ++ t := by
  refine Text.trimStart_of_head? fun c hc => ?_
  cases form <;> obtain rfl := Option.some.inj hc <;> decide

/-- Behind a gap one is where one would be without it. -/
lemma reached_skip_gap {g : Text} (h : Gap m g .outside) (t : Text) :
    (skip m (Text.trimStart (g ++ t))).reached = (skip .outside (Text.trimStart t)).reached := by
  generalize hend : Mode.outside = m' at h
  induction h with
  | nil => rfl
  | @blank c g m' hc _ ih =>
    have hdrop : Text.trimStart (c :: g ++ t) = Text.trimStart (g ++ t) :=
      List.dropWhile_cons_of_pos hc
    rw [hdrop, ih hend]
  | @opening form g m' _ ih =>
    rw [List.append_assoc, trimStart_openingMark, reached_skip_openingMark,
      ← reached_skip_trimStart form.isOpen_opened, ih hend]
  | @closed m m' u g hm hu _ ih =>
    rw [reached_skip_trimStart hm, reached_skip m, List.append_assoc,
      leave_append_of_inside hu hm, if_pos rfl, ih hend]
  | unclosed hm' _ =>
    subst hend
    simp [Mode.isOpen] at hm'

/-- The same for a gap that ends with a mark, and a text of which the blanks at the ends are dropped. -/
lemma reached_skip_gap_trim {g : Text} (h : Gap m g .outside)
    (hlast : ∀ a, g.getLast? = some a → isBlank a = false) (t : Text) :
    (skip m (Text.trim (g ++ t))).reached = (skip .outside (Text.trim t)).reached := by
  rw [Text.trim_eq_trimStart_trimEnd, Text.trimEnd_append_of_getLast? hlast, reached_skip_gap h,
    Text.trim_eq_trimStart_trimEnd]

/-- A line on which nothing is left goes on: what is added belongs to a comment up to the end of the
line, or is passed over as it would be without the line. -/
lemma reached_skip_append_of_nil (h : (skip m t).reached = (.code [], .outside)) :
    (∀ v, (skip m (Text.trimStart (t ++ v))).reached = (.code [], .outside)) ∨
      ∀ v, (skip m (Text.trimStart (t ++ v))).reached =
        (skip .outside (Text.trimStart v)).reached := by
  obtain ⟨houtcome, hmode⟩ := Prod.mk.inj h
  have hending := ending_of_skip houtcome false
  rw [hmode] at hending
  cases hending with
  | gap hg => exact Or.inr fun v => reached_skip_gap hg v
  | @lineComment g u hg =>
    refine Or.inl fun v => ?_
    have hsolid : Text.trimStart ('/' :: '/' :: (u ++ v)) = '/' :: '/' :: (u ++ v) :=
      List.dropWhile_cons_of_neg (by decide)
    rw [List.append_assoc, reached_skip_gap hg, List.cons_append, List.cons_append, hsolid,
      reached_skip_outside]
    rfl
  | directive hd => simp at hd

/-- A line on which text of the script is left goes on. -/
lemma reached_skip_append_of_code {rest v : Text} (h : (skip m t).outcome = .code rest)
    (hne : rest ≠ []) (hfront : front (rest ++ v) = .code)
    (hsolid : ∀ c, (rest ++ v).head? = some c → isBlank c = false) :
    (skip m (Text.trimStart (t ++ v))).reached = (.code (rest ++ v), .outside) := by
  obtain ⟨-, g, rfl, hg⟩ := gap_of_skip h hne
  rw [List.append_assoc, reached_skip_gap hg, Text.trimStart_of_head? hsolid, reached_skip_outside,
    hfront]

/-! ## Lines of a comment -/

/-- What is no blank stands in front of a blank. -/
lemma exists_cons_of_append_eq {p q : Text} {a x : Char} (ha : isBlank a = true)
    (hx : isBlank x = false) (h : p ++ a :: q = x :: t) : ∃ p', p = x :: p' ∧ p' ++ a :: q = t := by
  cases p with
  | nil =>
    obtain ⟨rfl, -⟩ := List.cons.inj h
    simp [ha] at hx
  | cons y p =>
    rw [List.cons_append, List.cons.injEq] at h
    obtain ⟨rfl, htail⟩ := h
    exact ⟨p, rfl, htail⟩

/-- A comment can be cut at a blank. -/
lemma Inside.split {p q : Text} {a : Char} (h : Inside m (p ++ a :: q) m')
    (ha : isBlank a = true) : ∃ m₁, m₁.isOpen = true ∧ Inside m p m₁ ∧ Inside m₁ q m' := by
  -- the two characters of a mark are in front of the blank
  have hmark : ∀ {p t : Text} {x y : Char}, isBlank x = false → isBlank y = false →
      p ++ a :: q = x :: y :: t → ∃ p', p = x :: y :: p' ∧ p' ++ a :: q = t := by
    intro p t x y hx hy heq
    obtain ⟨p₁, rfl, h₁⟩ := exists_cons_of_append_eq ha hx heq
    obtain ⟨p₂, rfl, h₂⟩ := exists_cons_of_append_eq ha hy h₁
    exact ⟨p₂, rfl, h₂⟩
  generalize htext : p ++ a :: q = u at h
  induction h generalizing p with
  | nil m => simp at htext
  | endBlock =>
    obtain ⟨p, -, htail⟩ := hmark (by decide) (by decide) htext
    simp at htail
  | endNested =>
    obtain ⟨p, -, htail⟩ := hmark (by decide) (by decide) htext
    simp at htail
  | openPair _ ih =>
    obtain ⟨p, rfl, htail⟩ := hmark (by decide) (by decide) htext
    obtain ⟨m₁, hm₁, hp, hq⟩ := ih htail
    exact ⟨m₁, hm₁, Inside.openPair hp, hq⟩
  | closePair _ ih =>
    obtain ⟨p, rfl, htail⟩ := hmark (by decide) (by decide) htext
    obtain ⟨m₁, hm₁, hp, hq⟩ := ih htail
    exact ⟨m₁, hm₁, Inside.closePair hp, hq⟩
  | @plain m m' b t hm hplain ht ih =>
    cases p with
    | nil =>
      obtain ⟨-, rfl⟩ := List.cons.inj htext
      exact ⟨m, hm, Inside.nil m, ht⟩
    | cons d p =>
      rw [List.cons_append, List.cons.injEq] at htext
      obtain ⟨rfl, rfl⟩ := htext
      obtain ⟨m₁, hm₁, hp, hq⟩ := ih rfl
      refine ⟨m₁, hm₁, Inside.plain hm ?_ hp, hq⟩
      cases p with
      | nil => exact Mode.atMark_singleton m d
      | cons e p =>
        rw [Mode.atMark_append (List.cons_ne_nil e p)] at hplain
        exact hplain

/-- Blanks at the end of a line make no difference inside a comment. -/
lemma Inside.trimEnd (h : Inside m t m') (hm' : m'.isOpen = true) :
    Inside m (Text.trimEnd t) m' := by
  obtain ⟨b, ht, hb⟩ := Text.exists_trimEnd_append_blanks t
  cases b with
  | nil =>
    rw [List.append_nil] at ht
    rw [← ht]
    exact h
  | cons a b =>
    rw [ht] at h
    obtain ⟨ha, hb⟩ := List.forall_mem_cons.1 hb
    obtain ⟨m₁, hm₁, hp, hq⟩ := h.split ha
    -- blanks do not change the mode
    have hmode : m₁ = m' := by
      have hleave := leave_of_inside hq hm'
      rw [← leave_trimStart hm₁, Text.trimStart_eq_nil_iff.2 hb, leave_nil] at hleave
      exact (Prod.mk.inj hleave).1
    rw [← hmode]
    exact hp

/-- A line inside a comment that stays open. -/
lemma reached_skip_trim (h : Inside m t m') (hm' : m'.isOpen = true) :
    (skip m (Text.trim t)).reached = (.code [], m') := by
  have hm := h.isOpen_left hm'
  have hne : m' ≠ .outside := by
    rintro rfl
    simp [Mode.isOpen] at hm'
  rw [Text.trim_eq_trimStart_trimEnd, reached_skip_trimStart hm, reached_skip,
    leave_of_inside (h.trimEnd hm') hm', if_neg hne]

/-- The line on which a comment is opened that stays open. -/
lemma reached_skip_trim_opening {form : Form} (h : Inside form.opened t m')
    (hm' : m'.isOpen = true) :
    (skip .outside (Text.trim (form.openingMark ++ t))).reached = (.code [], m') := by
  have hlast : ∀ a, form.openingMark.getLast? = some a → isBlank a = false := by
    intro a ha
    cases form <;> obtain rfl := Option.some.inj ha <;> decide
  have hne : m' ≠ .outside := by
    rintro rfl
    simp [Mode.isOpen] at hm'
  rw [Text.trim_eq_trimStart_trimEnd, Text.trimEnd_append_of_getLast? hlast, trimStart_openingMark,
    reached_skip_openingMark, reached_skip, leave_of_inside (h.trimEnd hm') hm', if_neg hne]

/-! ## Complete comments -/

/-- The mark that closes a comment ends with a slash. -/
lemma Inside.getLast?_eq (h : Inside m t .outside) (hm : m.isOpen = true) :
    t.getLast? = some '/' := by
  generalize hend : Mode.outside = m' at h
  induction h with
  | nil m =>
    subst hend
    simp [Mode.isOpen] at hm
  | endBlock => rfl
  | endNested => rfl
  | openPair ht ih =>
    subst hend
    rw [List.getLast?_cons_of_ne_nil (List.cons_ne_nil _ _),
      List.getLast?_cons_of_ne_nil (ht.ne_nil rfl), ih rfl rfl]
  | closePair ht ih =>
    subst hend
    rw [List.getLast?_cons_of_ne_nil (List.cons_ne_nil _ _),
      List.getLast?_cons_of_ne_nil (ht.ne_nil rfl), ih rfl rfl]
  | plain _ _ ht ih =>
    subst hend
    rw [List.getLast?_cons_of_ne_nil (ht.ne_nil hm), ih hm rfl]

lemma Inside.isBlank_of_getLast? (h : Inside m t .outside) (hm : m.isOpen = true) :
    ∀ a, t.getLast? = some a → isBlank a = false := by
  intro a ha
  rw [h.getLast?_eq hm] at ha
  obtain rfl := Option.some.inj ha
  decide

/-- A comment from its opening mark to the mark that closes it, and nothing behind that. -/
def Complete (t : Text) : Prop :=
  ∃ form u, t = Form.openingMark form ++ u ∧ Inside form.opened u .outside

lemma Complete.isBlank_of_getLast? (h : Complete t) :
    ∀ a, t.getLast? = some a → isBlank a = false := by
  obtain ⟨form, u, rfl, hu⟩ := h
  rw [List.getLast?_append_of_ne_nil _ (hu.ne_nil form.isOpen_opened)]
  exact hu.isBlank_of_getLast? form.isOpen_opened

lemma Complete.gap (h : Complete t) : Gap .outside t .outside := by
  obtain ⟨form, u, rfl, hu⟩ := h
  exact Gap.opening (Gap.of_inside hu)

end ScriptLexer.Comment
