import ScriptLexer.Proofs.Comment.Skip

/-!
# Where passing over comments leads

Apart from the changes of mode that it reports, passing over comments gives what is left and the
mode there.  Two equations determine this pair: one leaves the comment that is open at the start,
the other looks at a place outside comments.
-/

namespace ScriptLexer.Comment

/-- What is left behind the comments, and the mode there. -/
def Skipped.reached (s : Skipped) : Outcome × Mode := (s.outcome, s.mode)

@[simp] lemma Skipped.reached_after (changes : List (Mode × Mode)) (s : Skipped) :
    (s.after changes).reached = s.reached := rfl

/-- Looking at a place outside comments. -/
lemma reached_skip_outside (t : Text) :
    (skip .outside t).reached =
      match front t with
      | .nothing => (.code [], .outside)
      | .code => (.code t, .outside)
      | .closing form => (.stray form t, .outside)
      | .opening form rest => (skip form.opened rest).reached := by
  rw [skip]
  simp only [leave]
  split <;> simp_all [Skipped.reached, Skipped.after]

/-- Leaving the comment that is open at the start. -/
lemma reached_skip (m : Mode) (t : Text) :
    (skip m t).reached =
      if (leave m t).1 = .outside then (skip .outside (leave m t).2).reached
      else (.code [], (leave m t).1) := by
  split_ifs with hm
  · rw [reached_skip_outside, skip]
    split <;> simp_all [Skipped.reached, Skipped.after]
  · -- a comment that stays open uses up the text
    have hnil : (leave m t).2 = [] := by
      obtain ⟨g, -, -, hopen⟩ := gap_leave m t
      refine hopen ?_
      rw [← Bool.not_eq_false, Mode.isOpen_eq_false_iff]
      exact hm
    rw [skip]
    split <;> simp_all [Skipped.reached, front]

end ScriptLexer.Comment
