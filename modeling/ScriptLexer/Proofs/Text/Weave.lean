import Mathlib.Data.List.TakeWhile
import ScriptLexer.Proofs.Text.Blank

/-!
# Pieces with gaps between them

A line is a sequence of pieces with a gap in front of each and one behind the last.  If the gaps are
blanks, trimming the line leaves the pieces with blanks between each two of them.
-/

namespace ScriptLexer.Text

/-- The pieces in order, a gap in front of each, and what is left of the gaps behind the last. -/
def weave : (gaps pieces : List Text) → Text
  | gap :: gaps, piece :: pieces => gap ++ piece ++ weave gaps pieces
  | gaps, [] => gaps.flatten
  | [], pieces => pieces.flatten

@[simp] lemma weave_cons_cons (gap piece : Text) (gaps pieces : List Text) :
    weave (gap :: gaps) (piece :: pieces) = gap ++ piece ++ weave gaps pieces := rfl

@[simp] lemma weave_singleton_nil (gap : Text) : weave [gap] [] = gap := by
  simp [weave]

/-! ## Pieces with blanks between them -/

/-- The text is the pieces in order, with blanks between each two of them. -/
inductive Spaced : List Text → Text → Prop
  | nil : Spaced [] []
  | single (piece : Text) : Spaced [piece] piece
  | cons {piece piece' blanks rest : Text} {pieces : List Text} :
      (∀ c ∈ blanks, isBlank c = true) → blanks ≠ [] → Spaced (piece' :: pieces) rest →
        Spaced (piece :: piece' :: pieces) (piece ++ blanks ++ rest)

lemma Spaced.eq_nil {t : Text} (h : Spaced [] t) : t = [] := by
  cases h
  rfl

lemma Spaced.solid {pieces : List Text} {t : Text} (h : Spaced pieces t) (hne : pieces ≠ [])
    (hsolid : ∀ piece ∈ pieces, piece.Solid) : t.Solid := by
  induction h with
  | nil => exact absurd rfl hne
  | single piece => exact hsolid piece List.mem_cons_self
  | @cons piece piece' blanks rest pieces _ _ _ ih =>
    have hrest : rest.Solid := ih (List.cons_ne_nil _ _) (List.forall_mem_cons.1 hsolid).2
    exact Solid.append (hsolid piece List.mem_cons_self) hrest blanks

/-- Behind the first piece of a spaced text there is a break, and the blanks there are all that
separates it from the others. -/
lemma Spaced.behind {piece t : Text} {pieces : List Text} (h : Spaced (piece :: pieces) t)
    (hsolid : ∀ piece ∈ pieces, piece.Solid) :
    ∃ rest, t = piece ++ rest ∧ rest.Breaks ∧ Spaced pieces (trimStart rest) := by
  cases h with
  | single => exact ⟨[], by simp, breaks_nil, Spaced.nil⟩
  | @cons _ piece' blanks rest pieces hblanks hne hrest =>
    refine ⟨blanks ++ rest, by simp, breaks_append hblanks hne rest, ?_⟩
    have hhead := (hrest.solid (List.cons_ne_nil _ _) hsolid).head
    rw [trimStart_append_of_blanks hblanks, trimStart_of_head? hhead]
    exact hrest

/-- Between its first and its last gap a line is spaced. -/
lemma exists_spaced_of_weave (gap : Text) {gaps pieces : List Text}
    (hlength : gaps.length = pieces.length) (hpieces : pieces ≠ [])
    (hblank : ∀ gap ∈ gaps, ∀ c ∈ gap, isBlank c = true)
    (hinner : ∀ gap ∈ gaps.dropLast, gap ≠ []) :
    ∃ t last, weave (gap :: gaps) pieces = gap ++ t ++ last ∧ Spaced pieces t ∧
      ∀ c ∈ last, isBlank c = true := by
  induction pieces generalizing gap gaps with
  | nil => exact absurd rfl hpieces
  | cons piece pieces ih =>
    obtain ⟨next, gaps, rfl⟩ := List.exists_cons_of_length_eq_add_one hlength
    simp only [List.length_cons, Nat.add_right_cancel_iff] at hlength
    obtain ⟨hnext, hgaps⟩ := List.forall_mem_cons.1 hblank
    cases pieces with
    | nil =>
      obtain rfl := List.length_eq_zero_iff.1 hlength
      exact ⟨piece, next, by simp, Spaced.single piece, hnext⟩
    | cons piece' pieces =>
      have hgaps_ne : gaps ≠ [] := by
        rintro rfl
        simp at hlength
      rw [List.dropLast_cons_of_ne_nil hgaps_ne] at hinner
      obtain ⟨hnext_ne, hinner⟩ := List.forall_mem_cons.1 hinner
      obtain ⟨t, last, hweave, hspaced, hlast⟩ :=
        ih next hlength (List.cons_ne_nil _ _) hgaps hinner
      refine ⟨piece ++ next ++ t, last, ?_, Spaced.cons hnext hnext_ne hspaced, hlast⟩
      rw [weave_cons_cons, hweave]
      simp only [List.append_assoc]

/-- A line of solid pieces with blank gaps, none of the inner ones empty, is spaced once it is
trimmed. -/
lemma spaced_trim_weave {gaps pieces : List Text} (hlength : gaps.length = pieces.length + 1)
    (hblank : ∀ gap ∈ gaps, ∀ c ∈ gap, isBlank c = true)
    (hinner : ∀ gap ∈ gaps.tail.dropLast, gap ≠ []) (hsolid : ∀ piece ∈ pieces, piece.Solid) :
    Spaced pieces (trim (weave gaps pieces)) := by
  obtain ⟨gap, gaps, rfl⟩ := List.exists_cons_of_length_eq_add_one hlength
  simp only [List.length_cons, Nat.add_right_cancel_iff] at hlength
  obtain ⟨hgap, hgaps⟩ := List.forall_mem_cons.1 hblank
  by_cases hpieces : pieces = []
  · subst hpieces
    obtain rfl := List.length_eq_zero_iff.1 hlength
    rw [weave_singleton_nil, trim_of_blanks hgap]
    exact Spaced.nil
  · obtain ⟨t, last, hweave, hspaced, hlast⟩ :=
      exists_spaced_of_weave gap hlength hpieces hgaps hinner
    rw [hweave, (hspaced.solid hpieces hsolid).trim_eq hgap hlast]
    exact hspaced

end ScriptLexer.Text
