import Mathlib.Data.List.Infix
import ScriptLexer.Comment

/-!
# The text between tokens

What stands between two tokens is a gap: blanks, and comments that are closed again.  This file says
what a gap is without the functions that pass over one, and relates the two.

* `Inside m t m'`: the text `t` read from the mode `m` stays in one comment, or ends with the mark
  that closes it, and leads to the mode `m'`.
* `Gap m g m'`: the text `g` read from the mode `m` holds nothing but blanks and comments and leads
  to the mode `m'`.  Only if a comment is still open there, `m'` is not `outside`.
* `Ending directives m g m'`: the same for the text behind the last token of a line, which may also
  end with a comment that runs to the end of the line, or with a directive.
* `Gaps directives m gs m'`: the same for all gaps of a line, the ending being the last of them.

The main result is that the text determines the mode it leads to (`Gap.mode_unique`,
`Ending.mode_unique`, `Gaps.mode_unique`).
-/

namespace ScriptLexer.Comment

namespace Mode

lemma isOpen_eq_false_iff {m : Mode} : m.isOpen = false ↔ m = .outside := by
  cases m <;> simp [isOpen]

/-- The marks that have a meaning inside a comment. -/
def marks : Mode → List Text
  | .outside => []
  | .block => [['*', '/']]
  | .nested _ => [['/', '+'], ['+', '/']]

/-- Whether a text begins with a mark that has a meaning in this mode. -/
def atMark (m : Mode) (t : Text) : Bool := m.marks.any (·.isPrefixOf t)

@[simp] lemma atMark_singleton (m : Mode) (a : Char) : m.atMark [a] = false := by
  cases m <;> simp [atMark, marks, List.isPrefixOf]

lemma atMark_block_iff {a b : Char} {t : Text} :
    Mode.block.atMark (a :: b :: t) = true ↔ a = '*' ∧ b = '/' := by
  simp [atMark, marks, List.isPrefixOf, @eq_comm _ _ a, @eq_comm _ _ b]

lemma atMark_nested_iff {extra : Nat} {a b : Char} {t : Text} :
    (Mode.nested extra).atMark (a :: b :: t) = true ↔
      (a = '/' ∧ b = '+') ∨ (a = '+' ∧ b = '/') := by
  simp [atMark, marks, List.isPrefixOf, @eq_comm _ _ a, @eq_comm _ _ b]

@[simp] lemma atMark_block_close (t : Text) : Mode.block.atMark ('*' :: '/' :: t) = true :=
  atMark_block_iff.2 ⟨rfl, rfl⟩

@[simp] lemma atMark_nested_open (extra : Nat) (t : Text) :
    (Mode.nested extra).atMark ('/' :: '+' :: t) = true :=
  atMark_nested_iff.2 (Or.inl ⟨rfl, rfl⟩)

@[simp] lemma atMark_nested_close (extra : Nat) (t : Text) :
    (Mode.nested extra).atMark ('+' :: '/' :: t) = true :=
  atMark_nested_iff.2 (Or.inr ⟨rfl, rfl⟩)

/-- Whether a mark stands at the start is decided by two characters. -/
lemma atMark_append {m : Mode} {a : Char} {t : Text} (ht : t ≠ []) (t' : Text) :
    m.atMark (a :: (t ++ t')) = m.atMark (a :: t) := by
  obtain ⟨b, t, rfl⟩ := List.exists_cons_of_ne_nil ht
  cases m <;> simp [atMark, marks, List.isPrefixOf]

end Mode

/-- The mark that opens a comment of the given form. -/
def Form.openingMark : Form → Text
  | .block => ['/', '*']
  | .nested => ['/', '+']

/-- Text inside a comment, read from left to right from a mode to a mode.  The two characters of a
mark belong to no other mark, and nothing follows the mark that closes the comment. -/
inductive Inside : Mode → Text → Mode → Prop
  /-- Nothing is read. -/
  | nil (m : Mode) : Inside m [] m
  /-- The mark that closes a block comment. -/
  | endBlock : Inside .block ['*', '/'] .outside
  /-- The mark that closes a nested comment. -/
  | endNested : Inside (.nested 0) ['+', '/'] .outside
  /-- One more pair of marks is opened. -/
  | openPair {extra : Nat} {t : Text} {m : Mode} :
      Inside (.nested (extra + 1)) t m → Inside (.nested extra) ('/' :: '+' :: t) m
  /-- The innermost pair of marks is closed. -/
  | closePair {extra : Nat} {t : Text} {m : Mode} :
      Inside (.nested extra) t m → Inside (.nested (extra + 1)) ('+' :: '/' :: t) m
  /-- A character that begins no mark. -/
  | plain {m m' : Mode} {a : Char} {t : Text} :
      m.isOpen = true → m.atMark (a :: t) = false → Inside m t m' → Inside m (a :: t) m'

/-- Blanks and comments, read from a mode to a mode.  A comment that is open at the start comes to
its end first, and one that is open at the end is the last thing read. -/
inductive Gap : Mode → Text → Mode → Prop
  /-- Nothing is read. -/
  | nil : Gap .outside [] .outside
  /-- A blank between comments. -/
  | blank {c : Char} {g : Text} {m : Mode} :
      isBlank c = true → Gap .outside g m → Gap .outside (c :: g) m
  /-- A comment is opened. -/
  | opening {form : Form} {g : Text} {m : Mode} :
      Gap form.opened g m → Gap .outside (form.openingMark ++ g) m
  /-- The open comment is closed. -/
  | closed {m m' : Mode} {t g : Text} :
      m.isOpen = true → Inside m t .outside → Gap .outside g m' → Gap m (t ++ g) m'
  /-- The open comment is not closed. -/
  | unclosed {m m' : Mode} {t : Text} : m'.isOpen = true → Inside m t m' → Gap m t m'

/-- The text behind the last token of a line.  Directives count only if they are asked for. -/
inductive Ending (directives : Bool) : Mode → Text → Mode → Prop
  /-- A gap up to the end of the line. -/
  | gap {m m' : Mode} {g : Text} : Gap m g m' → Ending directives m g m'
  /-- A gap and a comment up to the end of the line. -/
  | lineComment {m : Mode} {g t : Text} :
      Gap m g .outside → Ending directives m (g ++ '/' :: '/' :: t) .outside
  /-- A gap and a directive. -/
  | directive {m : Mode} {g t : Text} :
      directives = true → Gap m g .outside → Ending directives m (g ++ '#' :: t) .outside

/-- The gaps of a line in order: those in front of its tokens, and the ending behind them. -/
inductive Gaps (directives : Bool) : Mode → List Text → Mode → Prop
  /-- No token follows. -/
  | last {m m' : Mode} {e : Text} : Ending directives m e m' → Gaps directives m [e] m'
  /-- A gap in front of a token. -/
  | cons {m m' : Mode} {g : Text} {gs : List Text} :
      Gap m g .outside → Gaps directives .outside gs m' → Gaps directives m (g :: gs) m'

/-! ## Text inside a comment -/

namespace Inside

/-- Outside comments there is nothing to read. -/
lemma eq_of_outside {t : Text} {m : Mode} (h : Inside .outside t m) : t = [] ∧ m = .outside := by
  cases h with
  | nil => exact ⟨rfl, rfl⟩
  | plain hopen => exact absurd hopen (by simp [Mode.isOpen])

/-- A comment that was open and is closed has been read to its closing mark. -/
lemma ne_nil {m : Mode} {t : Text} (h : Inside m t .outside) (hm : m.isOpen = true) : t ≠ [] := by
  rintro rfl
  cases h
  simp [Mode.isOpen] at hm

lemma isOpen_left {m m' : Mode} {t : Text} (h : Inside m t m') (hm' : m'.isOpen = true) :
    m.isOpen = true := by
  cases m with
  | outside =>
    obtain ⟨-, rfl⟩ := h.eq_of_outside
    exact hm'
  | block => rfl
  | nested extra => rfl

/-- Two readings agree as far as they go: a text that closes the comment cannot be read further, and
the same text leads to the same mode. -/
lemma eq_of_append {m m₁ m₂ : Mode} {t t' : Text} (h₁ : Inside m t m₁) (hm : m.isOpen = true)
    (hend : m₁ = .outside ∨ t' = []) (h₂ : Inside m (t ++ t') m₂) : t' = [] ∧ m₂ = m₁ := by
  induction h₁ generalizing m₂ with
  | nil m =>
    -- nothing was read, so the comment is still open and the text ends here
    rcases hend with rfl | rfl
    · exact absurd hm (by simp [Mode.isOpen])
    · cases h₂
      exact ⟨rfl, rfl⟩
  | endBlock =>
    rw [List.cons_append, List.cons_append] at h₂
    cases h₂ with
    | endBlock => exact ⟨rfl, rfl⟩
    | plain _ hmark => simp at hmark
  | endNested =>
    rw [List.cons_append, List.cons_append] at h₂
    cases h₂ with
    | endNested => exact ⟨rfl, rfl⟩
    | plain _ hmark => simp at hmark
  | openPair _ ih =>
    rw [List.cons_append, List.cons_append] at h₂
    cases h₂ with
    | openPair h₂ => exact ih rfl hend h₂
    | plain _ hmark => simp at hmark
  | closePair _ ih =>
    rw [List.cons_append, List.cons_append] at h₂
    cases h₂ with
    | closePair h₂ => exact ih rfl hend h₂
    | plain _ hmark => simp at hmark
  | @plain m _ a t hopen hmark hrest ih =>
    -- the longer text has no mark at its start either
    have hmark' : m.atMark (a :: (t ++ t')) = false := by
      rcases hend with rfl | rfl
      · rw [Mode.atMark_append (hrest.ne_nil hopen), hmark]
      · rw [List.append_nil, hmark]
    rw [List.cons_append] at h₂
    generalize htext : t ++ t' = u at h₂ hmark'
    cases h₂ with
    | endBlock => simp at hmark'
    | endNested => simp at hmark'
    | openPair _ => simp at hmark'
    | closePair _ => simp at hmark'
    | plain _ _ h₂ =>
      subst htext
      exact ih hopen hend h₂

end Inside

/-! ## Composing gaps -/

namespace Gap

lemma blanks {b g : Text} {m : Mode} (hb : ∀ c ∈ b, isBlank c = true) (h : Gap .outside g m) :
    Gap .outside (b ++ g) m := by
  induction b with
  | nil => exact h
  | cons c b ih =>
    have hrest : Gap .outside (b ++ g) m := ih fun d hd => hb d (List.mem_cons_of_mem _ hd)
    exact Gap.blank (hb c List.mem_cons_self) hrest

/-- The comment that is open at the start, up to its end or to the end of the text. -/
lemma of_inside {m m' : Mode} {t : Text} (h : Inside m t m') : Gap m t m' := by
  cases hm' : m'.isOpen with
  | true => exact Gap.unclosed hm' h
  | false =>
    rw [Mode.isOpen_eq_false_iff] at hm'
    subst hm'
    cases hm : m.isOpen with
    | true => simpa using Gap.closed hm h Gap.nil
    | false =>
      rw [Mode.isOpen_eq_false_iff] at hm
      subst hm
      obtain ⟨rfl, -⟩ := h.eq_of_outside
      exact Gap.nil

lemma append {m m' : Mode} {g g' : Text} (h : Gap m g .outside) (h' : Gap .outside g' m') :
    Gap m (g ++ g') m' := by
  generalize hend : Mode.outside = last at h
  induction h with
  | nil => exact h'
  | blank hc _ ih => exact Gap.blank hc (ih hend)
  | opening _ ih =>
    rw [List.append_assoc]
    exact Gap.opening (ih hend)
  | closed hm ht _ ih =>
    rw [List.append_assoc]
    exact Gap.closed hm ht (ih hend)
  | unclosed hm' _ =>
    subst hend
    exact absurd hm' (by simp [Mode.isOpen])

end Gap

namespace Ending

variable {directives : Bool}

/-- What precedes the ending of a line is part of it if it is a gap. -/
lemma append {m m' : Mode} {g e : Text} (h : Gap m g .outside)
    (h' : Ending directives .outside e m') : Ending directives m (g ++ e) m' := by
  cases h' with
  | gap hg => exact Ending.gap (h.append hg)
  | lineComment hg =>
    rw [← List.append_assoc]
    exact Ending.lineComment (h.append hg)
  | directive hd hg =>
    rw [← List.append_assoc]
    exact Ending.directive hd (h.append hg)

lemma opening {form : Form} {m : Mode} {e : Text} (h : Ending directives form.opened e m) :
    Ending directives .outside (form.openingMark ++ e) m := by
  cases h with
  | gap hg => exact Ending.gap (Gap.opening hg)
  | lineComment hg =>
    rw [← List.append_assoc]
    exact Ending.lineComment (Gap.opening hg)
  | directive hd hg =>
    rw [← List.append_assoc]
    exact Ending.directive hd (Gap.opening hg)

end Ending

namespace Gaps

variable {directives : Bool}

/-- Blanks in front of the first gap belong to it. -/
lemma blanks {b g : Text} {gs : List Text} {m : Mode} (hb : ∀ c ∈ b, isBlank c = true)
    (h : Gaps directives .outside (g :: gs) m) : Gaps directives .outside ((b ++ g) :: gs) m := by
  have hgap : Gap .outside b .outside := by simpa using Gap.blanks hb Gap.nil
  cases h with
  | last he => exact Gaps.last (Ending.append hgap he)
  | cons hg hgs => exact Gaps.cons (hgap.append hg) hgs

lemma ne_nil {gs : List Text} {m m' : Mode} (h : Gaps directives m gs m') : gs ≠ [] := by
  cases h <;> simp

end Gaps

/-! ## A gap leads to one mode -/

lemma Inside.eq_of_append_eq {m : Mode} {t t' g g' : Text} (h : Inside m t .outside)
    (h' : Inside m t' .outside) (hm : m.isOpen = true) (heq : t ++ g = t' ++ g') :
    t = t' ∧ g = g' := by
  rcases List.append_eq_append_iff.1 heq with ⟨u, rfl, rfl⟩ | ⟨u, rfl, rfl⟩
  · obtain ⟨rfl, -⟩ := h.eq_of_append hm (Or.inl rfl) h'
    exact ⟨(List.append_nil t).symm, rfl⟩
  · obtain ⟨rfl, -⟩ := h'.eq_of_append hm (Or.inl rfl) h
    exact ⟨List.append_nil t', rfl⟩

lemma Form.eq_of_openingMark_append {form form' : Form} {g g' : Text}
    (h : form.openingMark ++ g = form'.openingMark ++ g') : form = form' ∧ g = g' := by
  cases form <;> cases form' <;> simp [Form.openingMark] at h ⊢
  · exact h
  · exact h

namespace Gap

lemma eq_outside_of_nil {m : Mode} (h : Gap .outside [] m) : m = .outside := by
  generalize htext : ([] : Text) = t at h
  cases h with
  | nil => rfl
  | blank => simp at htext
  | @opening form => cases form <;> simp [Form.openingMark] at htext
  | closed hm => exact absurd hm (by simp [Mode.isOpen])
  | unclosed _ ht => exact ht.eq_of_outside.2

/-- A gap outside comments begins with a blank or with an opening mark. -/
lemma cons_inv {a : Char} {t : Text} {m : Mode} (h : Gap .outside (a :: t) m) :
    (isBlank a = true ∧ Gap .outside t m) ∨
      ∃ form g, a :: t = Form.openingMark form ++ g ∧ Gap form.opened g m := by
  generalize htext : a :: t = u at h
  cases h with
  | nil => simp at htext
  | blank hc hg =>
    obtain ⟨rfl, rfl⟩ := List.cons.inj htext
    exact Or.inl ⟨hc, hg⟩
  | opening hg => exact Or.inr ⟨_, _, rfl, hg⟩
  | closed hm => exact absurd hm (by simp [Mode.isOpen])
  | unclosed _ ht =>
    obtain ⟨rfl, -⟩ := ht.eq_of_outside
    simp at htext

/-- A gap that begins in a comment begins with the rest of this comment. -/
lemma open_inv {m m' : Mode} {u : Text} (h : Gap m u m') (hm : m.isOpen = true) :
    (∃ t g, u = t ++ g ∧ Inside m t .outside ∧ Gap .outside g m') ∨
      (m'.isOpen = true ∧ Inside m u m') := by
  cases h with
  | nil => exact absurd hm (by simp [Mode.isOpen])
  | blank => exact absurd hm (by simp [Mode.isOpen])
  | opening => exact absurd hm (by simp [Mode.isOpen])
  | closed _ ht hg => exact Or.inl ⟨_, _, rfl, ht, hg⟩
  | unclosed hm' ht => exact Or.inr ⟨hm', ht⟩

/-- Two readings of gaps agree as far as they go. -/
lemma split {m m₁ m₂ : Mode} {g t : Text} (h₁ : Gap m g m₁) (hend : m₁ = .outside ∨ t = [])
    (h₂ : Gap m (g ++ t) m₂) : (m₁ = .outside ∧ Gap .outside t m₂) ∨ (t = [] ∧ m₂ = m₁) := by
  induction h₁ generalizing m₂ with
  | nil => exact Or.inl ⟨rfl, h₂⟩
  | blank hc _ ih =>
    rcases h₂.cons_inv with ⟨-, h₂⟩ | ⟨form, g', hg', -⟩
    · exact ih hend h₂
    · -- no blank begins an opening mark
      cases form <;> obtain ⟨rfl, -⟩ := List.cons.inj hg' <;> exact absurd hc (by decide)
  | @opening form g m _ ih =>
    rw [List.append_assoc] at h₂
    have hmark : ∃ a t', form.openingMark ++ (g ++ t) = a :: t' ∧ isBlank a = false := by
      cases form <;> exact ⟨_, _, rfl, by decide⟩
    obtain ⟨a, t', htext, ha⟩ := hmark
    rw [htext] at h₂
    rcases h₂.cons_inv with ⟨ha', -⟩ | ⟨form', g', hg', h₂⟩
    · simp [ha] at ha'
    · obtain ⟨rfl, rfl⟩ := Form.eq_of_openingMark_append (htext.trans hg')
      exact ih hend h₂
  | closed hm ht _ ih =>
    rw [List.append_assoc] at h₂
    -- the comment ends at the same mark in both readings
    rcases h₂.open_inv hm with ⟨t', g', htext, ht', hg'⟩ | ⟨hopen, ht'⟩
    · obtain ⟨rfl, rfl⟩ := ht.eq_of_append_eq ht' hm htext
      exact ih hend hg'
    · obtain ⟨-, rfl⟩ := ht.eq_of_append hm (Or.inl rfl) ht'
      exact absurd hopen (by simp [Mode.isOpen])
  | @unclosed m m₁ u hm₁ hu =>
    -- what stays open to the end of the text has no end in the other reading
    have hm : m.isOpen = true := hu.isOpen_left hm₁
    have htext : t = [] := by
      rcases hend with rfl | htext
      · exact absurd hm₁ (by simp [Mode.isOpen])
      · exact htext
    subst htext
    rw [List.append_nil] at h₂
    rcases h₂.open_inv hm with ⟨t', g', rfl, ht', -⟩ | ⟨-, hu'⟩
    · obtain ⟨-, rfl⟩ := ht'.eq_of_append hm (Or.inl rfl) hu
      exact absurd hm₁ (by simp [Mode.isOpen])
    · have hmode := (hu.eq_of_append hm (Or.inr rfl) (by simpa using hu')).2
      exact Or.inr ⟨rfl, hmode⟩

/-- A gap leads to one mode only. -/
lemma mode_unique {m m₁ m₂ : Mode} {g : Text} (h₁ : Gap m g m₁) (h₂ : Gap m g m₂) : m₁ = m₂ := by
  rcases h₁.split (Or.inr rfl) (by simpa using h₂) with ⟨rfl, h⟩ | ⟨-, h⟩
  · exact h.eq_outside_of_nil.symm
  · exact h.symm

end Gap

/-- A gap stops in front of a character that is no blank and begins no opening mark. -/
lemma Gap.not_append {m m' : Mode} {g t : Text} {a : Char} (h : Gap m g .outside)
    (ha : isBlank a = false) (hmark : ∀ form g', a :: t ≠ Form.openingMark form ++ g') :
    ¬ Gap m (g ++ a :: t) m' := by
  intro h'
  rcases h.split (Or.inl rfl) h' with ⟨-, htail⟩ | ⟨htail, -⟩
  · rcases htail.cons_inv with ⟨hblank, -⟩ | ⟨form, g', heq, -⟩
    · simp [ha] at hblank
    · exact hmark form g' heq
  · simp at htail

namespace Ending

variable {directives : Bool} {m m₁ m₂ : Mode} {e : Text}

/-- The ending of a line is a gap, or something stands in it that is part of no gap. -/
lemma gap_or_not_gap (h : Ending directives m e m₁) :
    Gap m e m₁ ∨ (m₁ = .outside ∧ ∀ m', ¬ Gap m e m') := by
  cases h with
  | gap hg => exact Or.inl hg
  | lineComment hg =>
    refine Or.inr ⟨rfl, fun m' => hg.not_append (by decide) fun form g' => ?_⟩
    cases form <;> simp [Form.openingMark]
  | directive _ hg =>
    refine Or.inr ⟨rfl, fun m' => hg.not_append (by decide) fun form g' => ?_⟩
    cases form <;> simp [Form.openingMark]

/-- The ending of a line leads to one mode only. -/
lemma mode_unique (h₁ : Ending directives m e m₁) (h₂ : Ending directives m e m₂) : m₁ = m₂ := by
  rcases h₁.gap_or_not_gap with hg₁ | ⟨rfl, hnot₁⟩
  · rcases h₂.gap_or_not_gap with hg₂ | ⟨-, hnot₂⟩
    · exact hg₁.mode_unique hg₂
    · exact absurd hg₁ (hnot₂ m₁)
  · rcases h₂.gap_or_not_gap with hg₂ | ⟨rfl, -⟩
    · exact absurd hg₂ (hnot₁ m₂)
    · rfl

end Ending

/-- The gaps of a line lead to one mode only. -/
lemma Gaps.mode_unique {directives : Bool} {m m₁ m₂ : Mode} {gs : List Text}
    (h₁ : Gaps directives m gs m₁) (h₂ : Gaps directives m gs m₂) : m₁ = m₂ := by
  induction h₁ with
  | last he₁ =>
    cases h₂ with
    | last he₂ => exact he₁.mode_unique he₂
    | cons _ hgs => exact absurd rfl hgs.ne_nil
  | cons _ hgs₁ ih =>
    cases h₂ with
    | last _ => exact absurd rfl hgs₁.ne_nil
    | cons _ hgs₂ => exact ih hgs₂

end ScriptLexer.Comment
