import ScriptLexer.Proofs.Comment.Skip
import ScriptLexer.Proofs.Cursor.Reading
import ScriptLexer.Proofs.Session.Line
import ScriptLexer.Proofs.Text.Weave

/-!
# No text is lost

A line that is read to its end is the texts of its tokens with gaps between them.  No text is lost,
doubled or moved, and the comment mode behind the line is the one that the gaps lead to.

One scan takes a gap and the text of one token off the line, or finds that the rest of the line is
its ending.  The theorem follows by induction on the run.
-/

namespace ScriptLexer

namespace Cursor

variable {r : Rules} {c : Cursor}

/-- A scan that finds a token takes a gap and the token's text off the line, and the blanks that
follow. -/
lemma gap_of_scan_eq_some {t : Token} (h : (scan r c).found = .ok (some t)) :
    t.text ≠ [] ∧ (scan r c).cursor.mode = .outside ∧
      ∃ g rest, c.rest = g ++ t.text ++ rest ∧ Comment.Gap c.mode g .outside ∧
        (scan r c).cursor.rest = Text.trimStart rest := by
  obtain ⟨code, l, hskip, hne, -, hread, rfl, hcursor⟩ := scan_eq_some h
  obtain ⟨hmode, g, hline, hgap⟩ := Comment.gap_of_skip hskip hne
  obtain ⟨htext, rest, rfl⟩ := Lexeme.text_of_read hread
  refine ⟨htext, by rw [hcursor]; exact hmode, g, rest, ?_, hgap, ?_⟩
  · rw [hline, List.append_assoc]
    rfl
  · rw [hcursor]
    show Text.trimStart ((l.text ++ rest).drop l.text.length) = _
    rw [List.drop_left]

/-- A scan that finds no token has the ending of the line in front of it. -/
lemma ending_of_scan_eq_none (h : (scan r c).found = .ok none) :
    Comment.Ending (r.streaming && r.options.skipDirectives) c.mode c.rest
      (scan r c).cursor.mode := by
  obtain ⟨code, hskip, hcode, hcursor⟩ := scan_eq_none h
  rw [hcursor]
  show Comment.Ending _ c.mode c.rest (Comment.skip c.mode c.rest).mode
  by_cases hne : code = []
  · subst hne
    exact Comment.ending_of_skip hskip _
  · -- something is left, so it is a directive
    have hdir : isDirective r code = true := hcode.resolve_left hne
    obtain ⟨hmode, g, hline, hgap⟩ := Comment.gap_of_skip hskip hne
    obtain ⟨a, code, rfl⟩ := List.exists_cons_of_ne_nil hne
    simp only [isDirective, directiveMark, List.head?_cons, Bool.and_eq_true, beq_iff_eq,
      Option.some.injEq] at hdir
    obtain ⟨hon, rfl⟩ := hdir
    rw [hmode, hline]
    exact Comment.Ending.directive (by simpa using hon) hgap

/-- What is left of a line is the texts of its tokens with gaps between them. -/
lemma Drains.exists_gaps {ts : List Token} {last : Cursor} (h : Drains r c ts last) :
    ∃ gaps : List Text, gaps.length = ts.length + 1 ∧
      c.rest = Text.weave gaps (ts.map fun t => t.text) ∧
      Comment.Gaps (r.streaming && r.options.skipDirectives) c.mode gaps last.mode := by
  induction h with
  | @done c hscan =>
    exact ⟨[c.rest], rfl, by simp, Comment.Gaps.last (ending_of_scan_eq_none hscan)⟩
  | @token c last t ts hscan _ ih =>
    obtain ⟨-, hmode, g, rest, hline, hgap, hrest⟩ := gap_of_scan_eq_some hscan
    obtain ⟨gaps, hlength, hnextline, hgaps⟩ := ih
    rw [hmode] at hgaps
    -- the blanks behind the token open the next gap
    obtain ⟨b, hblanks, hb⟩ := Text.exists_blanks_append_trimStart rest
    obtain ⟨g', gaps, rfl⟩ := List.exists_cons_of_ne_nil hgaps.ne_nil
    refine ⟨g :: (b ++ g') :: gaps, by simpa using hlength, ?_,
      Comment.Gaps.cons hgap (hgaps.blanks hb)⟩
    rw [hrest] at hnextline
    rw [hline, hblanks, hnextline]
    cases ts with
    | nil => simp [Text.weave]
    | cons t' ts => simp

end Cursor

namespace Session

/-- A session reads its line as its cursor does. -/
lemma drains_of_reads {s after : Session} {ts : List Token} (h : Reads s ts after) :
    Cursor.Drains s.rules s.cursor ts after.cursor := by
  induction h with
  | done hnext =>
    obtain ⟨hscan, hcursor, -⟩ := nextFromLine_eq_ok hnext
    rw [hcursor]
    exact Cursor.Drains.done hscan
  | token hnext _ ih =>
    obtain ⟨hscan, hcursor, hrules⟩ := nextFromLine_eq_ok hnext
    rw [hrules, hcursor] at ih
    exact Cursor.Drains.token hscan ih

lemma text_ne_nil_of_reads {s after : Session} {ts : List Token} (h : Reads s ts after) :
    ∀ t ∈ ts, t.text ≠ [] := by
  induction h with
  | done _ => simp
  | token hnext _ ih =>
    obtain ⟨hscan, -, -⟩ := nextFromLine_eq_ok hnext
    exact List.forall_mem_cons.2 ⟨(Cursor.gap_of_scan_eq_some hscan).1, ih⟩

/-- **Conservation of text.**  If a line is read to its end, the line without the blanks at its ends
is the texts of the tokens with gaps between them.  The gaps hold blanks and comments only.  The
first may begin with the rest of a comment that was open, and the last may end with a comment that
is not closed or runs to the end of the line, or with a directive where these are skipped.  Reading
the gaps leads to the mode behind the line and to no other. -/
theorem drainLine_eq_weave {s after : Session} {line : Text} {ts : List Token}
    (hline : s.cursor.rest = Text.trim line) (h : s.drainLine = (.ok ts, after)) :
    (∀ t ∈ ts, t.text ≠ []) ∧
      ∃ gaps : List Text, gaps.length = ts.length + 1 ∧
        Text.trim line = Text.weave gaps (ts.map fun t => t.text) ∧
        ∀ m, Comment.Gaps (s.input.isSome && s.options.skipDirectives) s.cursor.mode gaps m ↔
          m = after.cursor.mode := by
  have hreads : Reads s ts after := drainLine_eq_ok_iff.1 h
  obtain ⟨gaps, hlength, hweave, hgaps⟩ := (drains_of_reads hreads).exists_gaps
  refine ⟨text_ne_nil_of_reads hreads, gaps, hlength, hline.symm.trans hweave, fun m => ?_⟩
  constructor
  · intro hm
    exact hm.mode_unique hgaps
  · rintro rfl
    exact hgaps

/-- A line of a stream that begins inside a comment and ends with a directive. -/
theorem drainLine_eq_weave_directive :
    ∃ (s after : Session) (ts : List Token),
      s.cursor.mode = .nested 0 ∧ s.input.isSome = true ∧
      s.cursor.rest = Text.trim " x +/ a1 /* b */\"c\" # d".toList ∧
      s.drainLine = (.ok ts, after) ∧
      ts.map (fun t => t.text) = ["a1".toList, "\"c\"".toList] ∧
      ∃ gaps : List Text, gaps.length = ts.length + 1 ∧
        Text.trim " x +/ a1 /* b */\"c\" # d".toList =
          Text.weave gaps (ts.map fun t => t.text) ∧
        ∀ m, Comment.Gaps (s.input.isSome && s.options.skipDirectives) s.cursor.mode gaps m ↔
          m = after.cursor.mode := by
  let s : Session :=
    { file := "f".toList
      options := {}
      table := Table.standard
      input := some { stream := Stream.ofReads [], owned := false, marked := false }
      cursor :=
        { rest := Text.trim " x +/ a1 /* b */\"c\" # d".toList, mode := .nested 0 } }
  have hfirst : s.drainLine.1 = .ok
      [{ kind := .identifier, text := "a1".toList, location := ⟨"f".toList, 1⟩ },
        { kind := .stringLiteral, text := "\"c\"".toList, value := [99],
          location := ⟨"f".toList, 1⟩ }] := by
    decide +kernel
  have h : s.drainLine = (.ok _, s.drainLine.2) := Prod.ext hfirst rfl
  exact ⟨s, s.drainLine.2, _, rfl, rfl, rfl, h, rfl, (drainLine_eq_weave rfl h).2⟩

end Session

end ScriptLexer
