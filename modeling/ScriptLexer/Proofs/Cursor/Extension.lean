import ScriptLexer.Proofs.Comment.Transparent
import ScriptLexer.Proofs.Cursor.Reading
import ScriptLexer.Proofs.Lexeme.Extension

/-!
# Reading a line that goes on

A line was read to its end without a fault, and no comment is open there.  Now let it go on behind a
break.  The same tokens are read, and then there are two possibilities: what has been added belongs to
a directive or to a comment up to the end of the line, or it is read as if the line began with it
(`Drains.extend`).  If the second is known for some text, it holds for every text
(`drain_start_append`).
-/

namespace ScriptLexer.Cursor

variable {r : Rules} {c last : Cursor} {ts : List Token}

/-- The cursor if its line goes on. -/
def extend (c : Cursor) (v : Text) : Cursor := { c with rest := Text.trimStart (c.rest ++ v) }

/-- The cursor in front of more text of its line. -/
def onto (c : Cursor) (t : Text) : Cursor := { c with rest := Text.trim t }

/-! ## One scan -/

/-- A token is found again, and behind it the line goes on. -/
lemma scan_extend_of_some {t : Token} {v : Text} (htable : r.table.Blankless)
    (h : (scan r c).found = .ok (some t)) (hv : v.Breaks) :
    (scan r (c.extend v)).found = .ok (some t) ∧
      (scan r (c.extend v)).cursor = (scan r c).cursor.extend v := by
  obtain ⟨code, l, hskip, hne, hdir, hread, rfl, hcursor⟩ := scan_eq_some h
  obtain ⟨hmode, -⟩ := Comment.gap_of_skip hskip hne
  obtain ⟨u, hcode⟩ := (Lexeme.text_of_read hread).2
  have hfront : Comment.front (code ++ v) = .code :=
    Comment.front_append_of_breaks (Comment.front_of_skip hskip hne) hne List.prefix_rfl hv
  have hsolid : ∀ a, (code ++ v).head? = some a → isBlank a = false := by
    rw [← hcode, List.append_assoc]
    exact (Lexeme.solid_of_read htable hread).head_append (u ++ v)
  obtain ⟨hfound', hcursor'⟩ := scan_of_reached (r := r) (c := c.extend v)
    (Comment.reached_skip_append_of_code hskip hne hfront hsolid)
  have hscan := scanCode_of_read (r := r)
    (c := { c.extend v with rest := code ++ v, mode := .outside }) (by simp [hne])
    ((isDirective_append hne List.prefix_rfl).trans hdir) (Lexeme.read_extend htable hread hv)
  rw [hfound', hcursor', hscan, hcursor]
  refine ⟨rfl, ?_⟩
  -- both cursors are behind the lexeme, and only blanks were dropped there
  have hdrop : (code ++ v).drop l.text.length = code.drop l.text.length ++ v :=
    List.drop_append_of_le_length (hcode ▸ by simp)
  simp only [behind, extend, behindComments, hmode, hdrop, Text.trimStart_trimStart_append]

lemma front_directiveMark (t : Text) : Comment.front (directiveMark :: t) = .code := by
  cases t <;> simp [Comment.front, directiveMark]

/-- At the end of a line outside comments, what is added is part of a directive or of a comment up to
the end of the line, or it is read as a line of its own. -/
lemma scan_extend_of_none (h : (scan r c).found = .ok none)
    (hmode : (scan r c).cursor.mode = .outside) :
    (∀ v, (scan r (c.extend v)).found = .ok none ∧
      (scan r (c.extend v)).cursor = (scan r c).cursor) ∨
    ∀ v, drain r (c.extend v) = drain r ((scan r c).cursor.extend v) := by
  obtain ⟨code, hskip, hend, hcursor⟩ := scan_eq_none h
  rw [hcursor] at hmode
  have hskipped : (Comment.skip c.mode c.rest).mode = .outside := hmode
  rw [hcursor, behindComments, hskipped]
  -- where the end or a directive is reached, no token is found
  have hsame : ∀ v rest, (rest = [] ∨ isDirective r rest = true) →
      (Comment.skip (c.extend v).mode (c.extend v).rest).reached = (.code rest, .outside) →
      (scan r (c.extend v)).found = .ok none ∧
        (scan r (c.extend v)).cursor = { c with rest := [], mode := .outside } := by
    intro v rest hrest hreached
    obtain ⟨hfound, hcursor⟩ := scan_of_reached (r := r) hreached
    obtain ⟨hnone, hlast⟩ := scanCode_of_end (r := r)
      (c := { c.extend v with rest, mode := .outside }) hrest
    exact ⟨hfound.trans hnone, hcursor.trans hlast⟩
  rcases hend with rfl | hdir
  · have hreached : (Comment.skip c.mode c.rest).reached = (.code [], .outside) :=
      Prod.ext hskip hskipped
    rcases Comment.reached_skip_append_of_nil hreached with hline | hgap
    · exact Or.inl fun v => hsame v [] (Or.inl rfl) (hline v)
    · exact Or.inr fun v => drain_congr rfl rfl (hgap v)
  · have hhead : code.head? = some directiveMark := by
      simp only [isDirective, Bool.and_eq_true, beq_iff_eq] at hdir
      exact hdir.2
    obtain ⟨u, rfl⟩ := List.head?_eq_some_iff.1 hhead
    refine Or.inl fun v => hsame v (directiveMark :: u ++ v) (Or.inr hdir)
      (Comment.reached_skip_append_of_code hskip (List.cons_ne_nil _ _)
        (front_directiveMark _) fun a ha => ?_)
    obtain rfl := Option.some.inj ha
    decide

/-! ## Lines -/

/-- Behind a line that goes on the same tokens are found, and what has been added is swallowed
whatever it is, or read as a line of its own whatever it is. -/
lemma Drains.extend (htable : r.table.Blankless) (h : Drains r c ts last)
    (hmode : last.mode = .outside) :
    (∀ v, v.Breaks → drain r (c.extend v) = .ok (ts, last)) ∨
      ∀ v, v.Breaks → drain r (c.extend v) =
        Reading.andThen (.ok (ts, last)) fun c => drain r (c.extend v) := by
  induction h with
  | @done c hscan =>
    rcases scan_extend_of_none hscan hmode with hsame | hadded
    · refine Or.inl fun v _ => ?_
      obtain ⟨hfound, hcursor⟩ := hsame v
      rw [drain_of_none hfound, hcursor]
    · refine Or.inr fun v _ => ?_
      rw [Reading.andThen_ok_nil]
      exact hadded v
  | @token c last t ts hscan hrest ih =>
    have hstep : ∀ v, v.Breaks → drain r (c.extend v) =
        Reading.andThen (.ok ([t], (scan r c).cursor.extend v)) (drain r) := by
      intro v hv
      obtain ⟨hfound, hcursor⟩ := scan_extend_of_some htable hscan hv
      rw [drain_of_some hfound, hcursor]
    rcases ih hmode with hsame | hadded
    · refine Or.inl fun v hv => ?_
      rw [hstep v hv, Reading.andThen_ok_ok (hsame v hv), List.singleton_append]
    · refine Or.inr fun v hv => ?_
      rw [hstep v hv, Reading.andThen_ok, hadded v hv]
      exact Reading.andThen_ok_andThen_ok (c := c)

/-- A line that is nothing or ends with a blank is read without a fault, and one more token is found
if it goes on with `probe`.  Then whatever it goes on with is read as a line of its own. -/
lemma drain_start_append (htable : r.table.Blankless) {line probe : Text} {x : Token}
    {last' : Cursor} (hline : ∀ a, line.getLast? = some a → isBlank a = true)
    (h : drain r (c.start line) = .ok (ts, last)) (hmode : last.mode = .outside)
    (hprobe : drain r (c.start (line ++ probe)) = .ok (ts ++ [x], last')) (t : Text) :
    drain r (c.start (line ++ t)) =
      Reading.andThen (.ok (ts, last)) fun c => drain r (c.onto t) := by
  have hdrains := drain_eq_ok_iff.1 h
  have hextend : ∀ t, ∃ v, v.Breaks ∧ c.start (line ++ t) = (c.start line).extend v ∧
      last.extend v = last.onto t := by
    intro t
    obtain ⟨v, hv, htrim, hadded⟩ := Text.exists_breaks_trim_append hline t
    refine ⟨v, hv, ?_, ?_⟩
    · simp only [start, extend, htrim]
    · simp only [onto, extend, hdrains.rest_last, List.nil_append, hadded]
  rcases hdrains.extend htable hmode with hsame | hadded
  · -- the additional token would have been swallowed
    obtain ⟨v, hv, hstart, -⟩ := hextend probe
    rw [hstart, hsame v hv] at hprobe
    simp at hprobe
  · obtain ⟨v, hv, hstart, honto⟩ := hextend t
    rw [hstart, hadded v hv, Reading.andThen_ok, Reading.andThen_ok, honto]

end ScriptLexer.Cursor
