import ScriptLexer.Proofs.Comment.Gap
import ScriptLexer.Proofs.Text.Blank

/-!
# What is passed over

Passing over comments leaves a suffix of the text, and what it takes off is a gap.  The statements
follow the functions: first to the end of the comment that is open, then over the blanks behind it,
then over all further comments.  If nothing is left, the text is a gap up to its end or up to a
comment that runs to the end of the line.
-/

namespace ScriptLexer.Comment

lemma inside_of_afterBlock?_eq_some {t r : Text} (h : afterBlock? t = some r) :
    ∃ c, t = c ++ r ∧ Inside .block c .outside := by
  fun_induction afterBlock? t with
  | case1 => simp at h
  | case2 => simp at h
  | case3 a b rest hmark =>
    obtain ⟨rfl, rfl⟩ := hmark
    obtain rfl := Option.some.inj h
    exact ⟨['*', '/'], rfl, Inside.endBlock⟩
  | case4 a b rest hmark ih =>
    obtain ⟨c, htext, hc⟩ := ih h
    refine ⟨a :: c, by rw [htext, List.cons_append], Inside.plain rfl ?_ hc⟩
    rw [← Mode.atMark_append (hc.ne_nil rfl) r, ← htext]
    exact Bool.eq_false_iff.2 fun hat => hmark (Mode.atMark_block_iff.1 hat)

lemma inside_of_afterBlock?_eq_none {t : Text} (h : afterBlock? t = none) :
    Inside .block t .block := by
  fun_induction afterBlock? t with
  | case1 => exact Inside.nil _
  | case2 a => exact Inside.plain rfl (Mode.atMark_singleton _ a) (Inside.nil _)
  | case3 => simp at h
  | case4 a b rest hmark ih =>
    refine Inside.plain rfl ?_ (ih h)
    exact Bool.eq_false_iff.2 fun hat => hmark (Mode.atMark_block_iff.1 hat)

/-- What `afterNested` takes off is inside the comment, and all of the text if it stays open. -/
lemma inside_afterNested (extra : Nat) (t : Text) :
    ∃ c, t = c ++ (afterNested extra t).2 ∧
      Inside (.nested extra) c (afterNested extra t).1 ∧
      ((afterNested extra t).1.isOpen = true → (afterNested extra t).2 = []) := by
  fun_induction afterNested extra t with
  | case1 extra => exact ⟨[], rfl, Inside.nil _, fun _ => rfl⟩
  | case2 extra a =>
    exact ⟨[a], rfl, Inside.plain rfl (Mode.atMark_singleton _ a) (Inside.nil _), fun _ => rfl⟩
  | case3 extra a b r hmark ih =>
    obtain ⟨rfl, rfl⟩ := hmark
    obtain ⟨c, htext, hc, hopen⟩ := ih
    exact ⟨'/' :: '+' :: c, by rw [List.cons_append, List.cons_append, ← htext],
      Inside.openPair hc, hopen⟩
  | case4 a b r _ hmark =>
    obtain ⟨rfl, rfl⟩ := hmark
    exact ⟨['+', '/'], rfl, Inside.endNested, fun hopen => absurd hopen (by simp [Mode.isOpen])⟩
  | case5 a b r _ hmark extra ih =>
    obtain ⟨rfl, rfl⟩ := hmark
    obtain ⟨c, htext, hc, hopen⟩ := ih
    exact ⟨'+' :: '/' :: c, by rw [List.cons_append, List.cons_append, ← htext],
      Inside.closePair hc, hopen⟩
  | case6 extra a b r hmark hmark' ih =>
    obtain ⟨c, htext, hc, hopen⟩ := ih
    refine ⟨a :: c, by rw [List.cons_append, ← htext], Inside.plain rfl ?_ hc, hopen⟩
    have hnot : (Mode.nested extra).atMark (a :: b :: r) = false := by
      refine Bool.eq_false_iff.2 fun hat => ?_
      rcases Mode.atMark_nested_iff.1 hat with hat | hat
      · exact hmark hat
      · exact hmark' hat
    cases c with
    | nil => exact Mode.atMark_singleton _ a
    | cons d c =>
      rw [htext, Mode.atMark_append (List.cons_ne_nil d c)] at hnot
      exact hnot

/-- Leaving the open comment takes off the rest of it and the blanks behind it. -/
lemma gap_leave (m : Mode) (t : Text) :
    ∃ g, t = g ++ (leave m t).2 ∧ Gap m g (leave m t).1 ∧
      ((leave m t).1.isOpen = true → (leave m t).2 = []) := by
  have closed : ∀ {c r : Text}, Inside m c .outside →
      ∃ g, c ++ r = g ++ Text.trimStart r ∧ Gap m g .outside := by
    intro c r hc
    obtain ⟨b, hr, hb⟩ := Text.exists_blanks_append_trimStart r
    refine ⟨c ++ b, by rw [List.append_assoc, ← hr], (Gap.of_inside hc).append ?_⟩
    simpa using Gap.blanks hb Gap.nil
  cases m with
  | outside => exact ⟨[], rfl, Gap.nil, fun h => absurd h (by simp [leave, Mode.isOpen])⟩
  | block =>
    cases h : afterBlock? t with
    | none =>
      simp only [leave, h]
      exact ⟨t, by simp, Gap.of_inside (inside_of_afterBlock?_eq_none h), by simp⟩
    | some r =>
      simp only [leave, h]
      obtain ⟨c, rfl, hc⟩ := inside_of_afterBlock?_eq_some h
      obtain ⟨g, hg, hgap⟩ := closed (r := r) hc
      exact ⟨g, hg, hgap, fun hopen => absurd hopen (by simp [Mode.isOpen])⟩
  | nested extra =>
    obtain ⟨c, htext, hc, hopen⟩ := inside_afterNested extra t
    simp only [leave]
    cases hm : (afterNested extra t).1.isOpen with
    | true =>
      rw [hopen hm] at htext ⊢
      exact ⟨c, by simpa using htext, Gap.of_inside hc, fun _ => rfl⟩
    | false =>
      rw [Mode.isOpen_eq_false_iff] at hm
      rw [hm] at hc ⊢
      obtain ⟨g, hg, hgap⟩ := closed (r := (afterNested extra t).2) hc
      exact ⟨g, htext.trans hg, hgap, fun hopen => absurd hopen (by simp)⟩

/-- If something follows the open comment, no comment is open there. -/
lemma gap_leave_of_ne_nil {m : Mode} {t : Text} (h : (leave m t).2 ≠ []) :
    (leave m t).1 = .outside ∧ ∃ g, t = g ++ (leave m t).2 ∧ Gap m g .outside := by
  obtain ⟨g, htext, hg, hopen⟩ := gap_leave m t
  have hmode : (leave m t).1 = .outside := by
    rw [← Mode.isOpen_eq_false_iff]
    exact Bool.eq_false_iff.2 fun hm => h (hopen hm)
  exact ⟨hmode, g, htext, hmode ▸ hg⟩

/-! ## What stands at a place outside comments -/

lemma eq_of_front_nothing {t : Text} (h : front t = .nothing) :
    t = [] ∨ ∃ t', t = '/' :: '/' :: t' := by
  unfold front at h
  split at h
  · exact Or.inl rfl
  · simp at h
  · rename_i a b r
    split_ifs at h with ha hb
    subst ha hb
    exact Or.inr ⟨r, rfl⟩

lemma eq_of_front_opening {t r : Text} {form : Form} (h : front t = .opening form r) :
    t = form.openingMark ++ r := by
  unfold front at h
  split at h
  · simp at h
  · simp at h
  · split_ifs at h with ha hb hb' hb''
    · obtain ⟨rfl, rfl⟩ := Front.opening.inj h
      subst ha hb'
      rfl
    · obtain ⟨rfl, rfl⟩ := Front.opening.inj h
      subst ha hb''
      rfl

lemma Form.openingMark_append_ne_nil (form : Form) (t : Text) : form.openingMark ++ t ≠ [] := by
  cases form <;> simp [Form.openingMark]

lemma ne_nil_of_front_code {t : Text} (h : front t = .code) : t ≠ [] := by
  rintro rfl
  simp [front] at h

/-- Two characters tell whether text of the script stands at a place. -/
lemma front_cons_cons_eq_code {a b : Char} {t : Text} (h : front (a :: b :: t) = .code)
    (t' : Text) : front (a :: b :: t') = .code := by
  simp only [front] at h ⊢
  split_ifs at h ⊢ with ha hline hblock hnested hb hblock' hnested'
  all_goals rfl

/-- No mark goes on into a break. -/
lemma front_cons_of_breaks {a : Char} {t : Text} (ht : t.Breaks) : front (a :: t) = .code := by
  cases t with
  | nil => rfl
  | cons b t =>
    have hb : ∀ mark, isBlank mark = false → b ≠ mark := by
      rintro mark hmark rfl
      exact ht.head?_ne hmark rfl
    simp only [front, hb '/' (by decide), hb '*' (by decide), hb '+' (by decide), if_false]
    split_ifs <;> rfl

/-- A piece of the text of the script in front of a break is text of the script. -/
lemma front_append_of_breaks {t line rest : Text} (h : front line = .code) (hne : t ≠ [])
    (ht : t <+: line) (hrest : rest.Breaks) : front (t ++ rest) = .code := by
  rcases Text.look_ahead hne ht hrest with ⟨a, b, u, v, rfl, htext⟩ | ⟨a, u, v, rfl, htext, hv⟩
  · rw [htext]
    exact front_cons_cons_eq_code h v
  · rw [htext]
    exact front_cons_of_breaks hv

/-! ## Passing over comments -/

lemma skip_outside_of_front {t : Text} (h : front t = .code) :
    skip .outside t = ⟨.code t, .outside, []⟩ := by
  unfold skip
  simp only [leave]
  split <;> simp_all [change]

/-- Where nothing is left of the line nothing changes. -/
lemma skip_nil (m : Mode) : skip m [] = ⟨.code [], m, []⟩ := by
  cases m <;> rw [skip] <;> rfl

/-- What is left is text of the script. -/
lemma front_of_skip {m : Mode} {t rest : Text} (h : (skip m t).outcome = .code rest)
    (hne : rest ≠ []) : front rest = .code := by
  fun_induction skip m t with
  | case1 =>
    obtain rfl := Outcome.code.inj h
    exact absurd rfl hne
  | case2 m t inner hfront =>
    obtain rfl := Outcome.code.inj h
    exact hfront
  | case3 => simp at h
  | case4 m t inner form rest' hfront ih => exact ih h

/-- What is left of the text, a stray closing mark included. -/
def Outcome.rest : Outcome → Text
  | .code rest => rest
  | .stray _ rest => rest

/-- In front of what is left there is a gap, and no comment is open there. -/
lemma gap_skip {m : Mode} {t : Text} (h : (skip m t).outcome.rest ≠ []) :
    (skip m t).mode = .outside ∧ ∃ g, t = g ++ (skip m t).outcome.rest ∧ Gap m g .outside := by
  fun_induction skip m t with
  | case1 => exact absurd rfl h
  | case2 m t inner hfront => exact gap_leave_of_ne_nil h
  | case3 m t inner form hfront => exact gap_leave_of_ne_nil h
  | case4 m t inner form rest' hfront ih =>
    -- a gap, the opening mark, and the gap behind it are one gap
    obtain ⟨hmode, g', hrest, hg'⟩ := ih h
    have htail : inner.2 = form.openingMark ++ rest' := eq_of_front_opening hfront
    obtain ⟨-, g, htext, hg⟩ :=
      gap_leave_of_ne_nil (htail ▸ form.openingMark_append_ne_nil rest' : inner.2 ≠ [])
    refine ⟨hmode, g ++ (form.openingMark ++ g'), ?_, hg.append (Gap.opening hg')⟩
    change t = g ++ (form.openingMark ++ g') ++ (skip form.opened rest').outcome.rest
    rw [htext, List.append_assoc, List.append_assoc, ← hrest, ← htail]

lemma gap_of_skip {m : Mode} {t rest : Text} (h : (skip m t).outcome = .code rest)
    (hne : rest ≠ []) : (skip m t).mode = .outside ∧ ∃ g, t = g ++ rest ∧ Gap m g .outside := by
  have hrest : (skip m t).outcome.rest = rest := by rw [h]; rfl
  have hgap := gap_skip (hrest ▸ hne)
  rwa [hrest] at hgap

/-- A stray closing mark stands behind a gap, and no comment is open there. -/
lemma gap_of_skip_stray {m : Mode} {t line : Text} {form : Form}
    (h : (skip m t).outcome = .stray form line) :
    (skip m t).mode = .outside ∧ front line = .closing form ∧
      ∃ g, t = g ++ line ∧ Gap m g .outside := by
  have hfront : front line = .closing form := by
    fun_induction skip m t with
    | case1 => simp at h
    | case2 => simp at h
    | case3 m t inner form' hfront =>
      obtain ⟨rfl, rfl⟩ := Outcome.stray.inj h
      exact hfront
    | case4 m t inner form' rest' hfront ih => exact ih h
  have hne : line ≠ [] := by
    rintro rfl
    simp [front] at hfront
  have hrest : (skip m t).outcome.rest = line := by rw [h]; rfl
  have hgap := gap_skip (hrest ▸ hne)
  rw [hrest] at hgap
  exact ⟨hgap.1, hfront, hgap.2⟩

/-- If nothing is left, the text ends the line. -/
lemma ending_of_skip {m : Mode} {t : Text} (h : (skip m t).outcome = .code [])
    (directives : Bool) : Ending directives m t (skip m t).mode := by
  fun_induction skip m t with
  | case1 m t inner hfront =>
    rcases eq_of_front_nothing hfront with hnil | ⟨t', hline⟩
    · obtain ⟨g, htext, hg, -⟩ := gap_leave m t
      rw [show (leave m t).2 = [] from hnil, List.append_nil] at htext
      exact Ending.gap (htext ▸ hg)
    · have hne : inner.2 ≠ [] := by simp [hline]
      obtain ⟨hmode, g, htext, hg⟩ := gap_leave_of_ne_nil hne
      rw [show inner.1 = .outside from hmode, htext, show (leave m t).2 = _ from hline]
      exact Ending.lineComment hg
  | case2 m t inner hfront => exact absurd (Outcome.code.inj h) (ne_nil_of_front_code hfront)
  | case3 => simp at h
  | case4 m t inner form rest' hfront ih =>
    have htail : inner.2 = form.openingMark ++ rest' := eq_of_front_opening hfront
    obtain ⟨-, g, htext, hg⟩ :=
      gap_leave_of_ne_nil (htail ▸ form.openingMark_append_ne_nil rest' : inner.2 ≠ [])
    have hend : Ending directives .outside (form.openingMark ++ rest') _ := (ih h).opening
    rw [← htail] at hend
    rw [htext]
    exact Ending.append hg hend

end ScriptLexer.Comment
