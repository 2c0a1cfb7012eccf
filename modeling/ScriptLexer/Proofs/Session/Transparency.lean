import ScriptLexer.Proofs.Cursor.Extension
import ScriptLexer.Proofs.Cursor.Places
import ScriptLexer.Proofs.Session.Source
import ScriptLexer.Proofs.Source.Lines

/-!
# Comments are transparent

A complete comment between two texts counts as a blank: the same lexemes are read, or the same fault
is met (`tokenizeText_comment`).  The comment may go on over several lines, and then the lines behind
it have other numbers; otherwise nothing at all changes.

A text is read from the start of a line (`readText`) or as what is left of a line and the lines behind
it (`readOn`).  The argument has three parts.

* The text in front of the comment is read as it is without it, and `readOn` goes on from there
  (`readText_append`).
* The comment leads to a cursor outside comments, from which `readOn` goes on (`readOn_comment`).
* What follows is read in the same way at every place (`Cursor.exhaust_matches`).
-/

namespace ScriptLexer

namespace Cursor

variable {r : Rules} {c : Cursor}

/-- Reads a text of which the first line is what is left of the line at hand. -/
def readOn (r : Rules) (c : Cursor) (t : Text) : Reading :=
  exhaust r false (c.onto (firstPart '\n' t)) ((laterParts '\n' t).map .text)

/-! ## Texts in a row -/

/-- No read of a line of a text is empty. -/
lemma isEmpty_of_mem_lines (t : Text) :
    ∀ chunk ∈ (cutAfter '\n' t).map Chunk.text, chunk.isEmpty = false := by
  intro chunk hchunk
  obtain ⟨line, hline, rfl⟩ := List.mem_map.1 hchunk
  simpa [Chunk.isEmpty] using ne_nil_of_mem_cutAfter hline

/-- Behind a line feed a new line begins. -/
lemma readText_append_of_ends {whole : Text} (h : Ends '\n' whole) (t : Text) :
    readText r c (whole ++ t) = (readText r c whole).andThen fun last => readText r last t := by
  unfold readText
  rw [cutAfter_append_of_ends h, List.map_append, exhaust_append (isEmpty_of_mem_lines whole)]

/-- A text that is not empty is read line by line, from the start of the next line on. -/
lemma readText_append_line (hrest : drain r c = .ok ([], c)) {line t : Text} (hline : '\n' ∉ line)
    (hne : line ++ t ≠ []) :
    readText r c (line ++ t) =
      exhaust r false (c.start (line ++ firstPart '\n' t)) ((laterParts '\n' t).map .text) := by
  have hmem : line ++ firstPart '\n' t ∈ cutAfter '\n' (line ++ t) := by
    rw [cutAfter_append hline hne]
    exact List.mem_cons_self
  have hfirst : line ++ firstPart '\n' t ≠ [] := ne_nil_of_mem_cutAfter hmem
  unfold readText
  rw [cutAfter_append hline hne, List.map_cons, exhaust_text_cons hfirst, hrest,
    Reading.andThen_ok_nil]
  simp only [unmarked, Bool.false_and, Bool.false_eq_true, if_false]

/-- A text of a single line. -/
lemma readText_line (hrest : drain r c = .ok ([], c)) {line : Text} (hline : '\n' ∉ line)
    (hne : line ≠ []) : readText r c line = drain r (c.start line) := by
  have hread := readText_append_line (t := []) hrest hline (by simpa using hne)
  rw [List.append_nil] at hread
  rw [hread, show firstPart '\n' ([] : Text) = [] from rfl, List.append_nil]
  rfl

/-- A line with its line feed. -/
lemma readText_lineFeed (hrest : drain r c = .ok ([], c)) {line : Text} (hline : '\n' ∉ line) :
    readText r c (line ++ ['\n']) = drain r (c.start line) := by
  rw [readText_append_line hrest hline (by simp), firstPart_mark, laterParts_mark,
    start_append_lineFeed]
  rfl

/-- A blank makes no difference to what is left of a line. -/
lemma readOn_blank (c : Cursor) (t : Text) : readOn r c (' ' :: t) = readOn r c t := by
  have hmark : '\n' ∉ [' '] := by decide
  have hblank : ∀ a ∈ [' '], isBlank a = true := List.forall_mem_singleton.2 (by decide)
  have hfirst := firstPart_append hmark t
  have hlater := laterParts_append hmark t
  rw [List.singleton_append] at hfirst hlater
  unfold readOn
  rw [hfirst, hlater, onto, onto, Text.trim_append_blanks_left hblank]

/-! ## In front of the comment -/

/-- A text that is nothing or ends with a blank is read without a fault, and one more token is found
if it goes on with `probe`.  Then whatever it goes on with is read on from the same cursor. -/
lemma readText_append (htable : r.table.Blankless) {a probe : Text} {ts : List Token} {x : Token}
    {last last' : Cursor} (ha : ∀ d, a.getLast? = some d → isBlank d = true)
    (hprobe : '\n' ∉ probe) (hne : probe ≠ [])
    (h : readText r c a = .ok (ts, last)) (hmode : last.mode = .outside)
    (h' : readText r c (a ++ probe) = .ok (ts ++ [x], last')) :
    ∃ c₁, c₁.mode = .outside ∧ ∀ t, t ≠ [] →
      readText r c (a ++ t) = Reading.andThen (.ok (ts, c₁)) fun c => readOn r c t := by
  obtain ⟨whole, line, rfl, hwhole, hline⟩ := exists_ends_append '\n' a
  rw [readText_append_of_ends hwhole] at h
  obtain ⟨ts₀, c₀, ts₁, hfirst, hlater, rfl⟩ := Reading.andThen_eq_ok h
  have hrest₀ := drain_of_exhaust_eq_ok hfirst
  -- the line that goes on, as it is now
  have hstart : ∃ c₁, drain r (c₀.start line) = .ok (ts₁, c₁) ∧ c₁.mode = .outside := by
    by_cases hnil : line = []
    · subst hnil
      rw [show readText r c₀ [] = drain r c₀ from rfl, hrest₀] at hlater
      obtain ⟨rfl, rfl⟩ := Prod.mk.inj (Except.ok.inj hlater)
      exact ⟨c₀.start [], drain_of_nil rfl, hmode⟩
    · rw [readText_line hrest₀ hline hnil] at hlater
      exact ⟨last, hlater, hmode⟩
  obtain ⟨c₁, hdrain, hmode₁⟩ := hstart
  -- with the probe
  have hdrain' : drain r (c₀.start (line ++ probe)) = .ok (ts₁ ++ [x], last') := by
    rw [List.append_assoc, readText_append_of_ends hwhole, hfirst] at h'
    obtain ⟨ts₀', c₀', ts₁', hsame, hread, hts⟩ := Reading.andThen_eq_ok h'
    obtain ⟨rfl, rfl⟩ := Prod.mk.inj (Except.ok.inj hsame)
    rw [List.append_assoc, List.append_cancel_left_eq] at hts
    rw [← hts, readText_line hrest₀ (by simp [hline, hprobe]) (by simp [hne])] at hread
    exact hread
  refine ⟨c₁, hmode₁, fun t ht => ?_⟩
  have hlineBlank : ∀ d, line.getLast? = some d → isBlank d = true := by
    intro d hd
    refine ha d ?_
    rw [List.getLast?_append, hd]
    rfl
  have hgoOn := drain_start_append htable hlineBlank hdrain hmode₁ hdrain' (firstPart '\n' t)
  rw [List.append_assoc, readText_append_of_ends hwhole, hfirst, Reading.andThen_ok,
    readText_append_line hrest₀ hline (by simp [ht]), ← exhaust_andThen, hgoOn,
    Reading.andThen_assoc]
  simp only [exhaust_andThen]
  exact Reading.andThen_ok_andThen_ok (c := c₀)

/-! ## The comment -/

/-- The rest of a comment is passed over, line by line. -/
lemma readText_comment {t : Text} (hnil : c.rest = []) (hopen : c.mode.isOpen = true)
    (h : Comment.Inside c.mode t .outside) (b : Text) :
    ∃ c₂, c₂.mode = .outside ∧ readText r c (t ++ b) = readOn r c₂ b := by
  induction hsize : t.length using Nat.strong_induction_on generalizing c t with
  | _ size ih =>
    subst hsize
    by_cases hmark : '\n' ∈ t
    · obtain ⟨p, q, rfl, hp⟩ := List.eq_append_cons_of_mem hmark
      obtain ⟨m₁, hm₁, hline, hrest⟩ := h.split (by decide)
      -- the comment stays open to the end of the line
      let c₁ : Cursor := { c.start p with rest := [], mode := m₁ }
      have hfirst : readText r c (p ++ ['\n']) = .ok ([], c₁) := by
        rw [readText_lineFeed (drain_of_nil hnil) hp]
        exact drain_of_reached_nil (Comment.reached_skip_trim hline hm₁)
      obtain ⟨c₂, hmode, hread⟩ := ih q.length (by simp; omega) (c := c₁) rfl hm₁ hrest rfl
      refine ⟨c₂, hmode, ?_⟩
      rw [← hread, show p ++ '\n' :: q ++ b = p ++ ['\n'] ++ (q ++ b) by simp,
        readText_append_of_ends (Or.inr ⟨p, rfl⟩), hfirst, Reading.andThen_ok_nil]
    · -- the comment is closed on this line
      let c₂ : Cursor := { c.start t with mode := .outside }
      have hdrain : drain r (c.start (t ++ firstPart '\n' b)) =
          drain r (c₂.onto (firstPart '\n' b)) :=
        drain_congr rfl rfl (Comment.reached_skip_gap_trim (Comment.Gap.of_inside h)
          (h.isBlank_of_getLast? hopen) _)
      refine ⟨c₂, rfl, ?_⟩
      rw [readText_append_line (drain_of_nil hnil) hmark (by simp [h.ne_nil hopen])]
      exact exhaust_congr hdrain _

/-- A complete comment leads to a place outside comments, and from there what follows is read on.
Without a line feed in it the place is the same as before. -/
lemma readOn_comment {t : Text} (hmode : c.mode = .outside) (h : Comment.Complete t) (b : Text) :
    ∃ c₂, c₂.mode = .outside ∧ readOn r c (t ++ b) = readOn r c₂ b ∧ ('\n' ∉ t → c₂ = c) := by
  by_cases hmark : '\n' ∈ t
  · obtain ⟨form, u, rfl, hu⟩ := h
    have hopening : '\n' ∉ form.openingMark := by cases form <;> decide
    obtain ⟨p, q, rfl, hp⟩ :=
      List.eq_append_cons_of_mem ((List.mem_append.1 hmark).resolve_left hopening)
    obtain ⟨m₁, hm₁, hline, hrest⟩ := hu.split (by decide)
    let c₁ : Cursor := { c with rest := [], mode := m₁ }
    have hfirst : drain r (c.onto (form.openingMark ++ p ++ ['\n'])) = .ok ([], c₁) := by
      refine drain_of_reached_nil (c := c.onto _) ?_
      show (Comment.skip c.mode (Text.trim (form.openingMark ++ p ++ ['\n']))).reached = _
      rw [hmode, Text.trim_append_of_blanks (List.forall_mem_singleton.2 (by decide))]
      exact Comment.reached_skip_trim_opening hline hm₁
    obtain ⟨c₂, hmode₂, hread⟩ := readText_comment (r := r) (c := c₁) rfl hm₁ hrest b
    refine ⟨c₂, hmode₂, ?_, fun hnot => absurd hmark hnot⟩
    have htext : form.openingMark ++ (p ++ '\n' :: q) ++ b =
        (form.openingMark ++ p) ++ '\n' :: (q ++ b) := by simp
    have hnot : '\n' ∉ form.openingMark ++ p := by simp [hopening, hp]
    rw [← hread, htext, readOn, firstPart_append hnot, laterParts_append hnot, firstPart_mark,
      laterParts_mark, ← exhaust_andThen, hfirst, Reading.andThen_ok_nil]
    rfl
  · have hreached := Comment.reached_skip_gap_trim h.gap h.isBlank_of_getLast? (firstPart '\n' b)
    have hdrain : drain r (c.onto (t ++ firstPart '\n' b)) =
        drain r (c.onto (firstPart '\n' b)) :=
      drain_congr rfl rfl (by rw [← hmode] at hreached; exact hreached)
    refine ⟨c, hmode, ?_, fun _ => rfl⟩
    rw [readOn, readOn, firstPart_append hmark, laterParts_append hmark]
    exact exhaust_congr hdrain _

end Cursor

/-! ## The runs -/

variable {file : Text} {options : Options}

lemma exists_of_tokenizeText_eq_ok {t : Text} {us : List Token}
    (h : tokenizeText file options t = .ok us) :
    ∃ ts c e, ({} : Cursor).readText (textRules file options) t = .ok (ts, c) ∧
      c.mode = .outside ∧ us = ts ++ [e] := by
  rw [tokenizeText_eq] at h
  cases hfinish : (({} : Cursor).readText (textRules file options) t).finish
      (textRules file options) with
  | error e =>
    rw [hfinish] at h
    cases h
  | ok us' =>
    rw [hfinish] at h
    obtain rfl := Except.ok.inj h
    exact Reading.finish_eq_ok hfinish

/-- **Comments are transparent.**  Let the text `a` be empty or end with a blank, and let it be read
without a fault.  Let the same tokens be read if a letter is put behind it, and then one more, so that
`a` does not end inside a literal, a comment or a directive.  Then a complete comment between `a` and
a text `b` counts as a blank: the same lexemes are read, or the same fault is met.  If the comment has
no line feed in it, all places are the same as well. -/
theorem tokenizeText_comment {a b comment : Text} {ts : List Token} {x e e' : Token}
    (hcomment : Comment.Complete comment) (ha : ∀ d, a.getLast? = some d → isBlank d = true)
    (h : tokenizeText file options a = .ok (ts ++ [e]))
    (h' : tokenizeText file options (a ++ ['x']) = .ok (ts ++ [x, e'])) :
    ((∃ us us', tokenizeText file options (a ++ comment ++ b) = .ok us ∧
        tokenizeText file options (a ++ ' ' :: b) = .ok us' ∧
        us.map Token.toLexeme = us'.map Token.toLexeme) ∨
      ∃ fault place place',
        tokenizeText file options (a ++ comment ++ b) = .error (.lexical ⟨fault, place⟩) ∧
        tokenizeText file options (a ++ ' ' :: b) = .error (.lexical ⟨fault, place'⟩)) ∧
    ('\n' ∉ comment →
      tokenizeText file options (a ++ comment ++ b) = tokenizeText file options (a ++ ' ' :: b)) := by
  set r := textRules file options with hr
  -- what is read up to the comment
  obtain ⟨ts₀, last, e₀, hread, hmode, hts⟩ := exists_of_tokenizeText_eq_ok h
  obtain ⟨rfl, -⟩ := List.append_inj' hts rfl
  obtain ⟨ts₁, last', e₁, hread', -, hts'⟩ := exists_of_tokenizeText_eq_ok h'
  obtain ⟨rfl, -⟩ : ts ++ [x] = ts₁ ∧ [e'] = [e₁] := by
    refine List.append_inj' ?_ rfl
    rw [← hts', List.append_assoc]
    rfl
  obtain ⟨c₁, hmode₁, hgoOn⟩ := Cursor.readText_append (r := r) Table.blankless_standard ha
    (by decide) (by simp) hread hmode hread'
  -- the comment, and what is read behind it
  obtain ⟨c₂, hmode₂, hover, hsame⟩ := Cursor.readOn_comment (r := r) hmode₁ hcomment b
  have hne : comment ++ b ≠ [] := by
    obtain ⟨form, u, rfl, -⟩ := hcomment
    rw [List.append_assoc]
    exact form.openingMark_append_ne_nil _
  have hwith : ({} : Cursor).readText r (a ++ comment ++ b) =
      Reading.andThen (.ok (ts, c₁)) fun _ => Cursor.readOn r c₂ b := by
    rw [List.append_assoc, hgoOn _ hne, Reading.andThen_ok, hover]
    rfl
  have hwithout : ({} : Cursor).readText r (a ++ ' ' :: b) =
      Reading.andThen (.ok (ts, c₁)) fun _ => Cursor.readOn r c₁ b := by
    rw [hgoOn _ (List.cons_ne_nil _ _), Reading.andThen_ok, Cursor.readOn_blank]
    rfl
  simp only [tokenizeText_eq, ← hr]
  refine ⟨?_, fun hlineFeed => by rw [hwith, hwithout, hsame hlineFeed]⟩
  have hmatches : (({} : Cursor).readText r (a ++ comment ++ b)).Matches
      (({} : Cursor).readText r (a ++ ' ' :: b)) := by
    rw [hwith, hwithout]
    have hcursor : (c₂.onto (firstPart '\n' b)).Matches (c₁.onto (firstPart '\n' b)) :=
      ⟨rfl, hmode₂.trans hmode₁.symm⟩
    refine (Reading.Matches.ok rfl ⟨rfl, rfl⟩).andThen fun _ _ _ => ?_
    exact Cursor.exhaust_matches hcursor _
  rcases hmatches.finish r with ⟨us, us', hus, hus', hlexemes⟩ | ⟨fault, place, place', hus, hus'⟩
  · exact Or.inl ⟨us, us', by rw [hus]; rfl, by rw [hus']; rfl, hlexemes⟩
  · exact Or.inr ⟨fault, place, place', by rw [hus]; rfl, by rw [hus']; rfl⟩

/-- A comment over two lines, with other marks, a quote and a number sign in it. -/
theorem tokenizeText_comment_lines :
    ∃ (a b comment : Text) (ts us us' : List Token) (x e e' : Token),
      comment = "/+ /+ # +/ */ \n ' +/".toList ∧ Comment.Complete comment ∧
      (∀ d, a.getLast? = some d → isBlank d = true) ∧
      tokenizeText [] {} a = .ok (ts ++ [e]) ∧
      tokenizeText [] {} (a ++ ['x']) = .ok (ts ++ [x, e']) ∧
      tokenizeText [] {} (a ++ comment ++ b) = .ok us ∧
      tokenizeText [] {} (a ++ ' ' :: b) = .ok us' ∧
      us.map Token.toLexeme = us'.map Token.toLexeme ∧
      us'.map (fun t => t.text) = ["1".toList, "=".toList, "y".toList, endText] := by
  let place : Location := ⟨namelessSource, 1⟩
  let one : Token :=
    { kind := .intLiteral, text := "1".toList, location := place, startsLine := true }
  let x : Token := { kind := .identifier, text := "x".toList, location := place }
  let assign : Token := { kind := .operator .assign, text := "=".toList, location := place }
  let y : Token := { kind := .identifier, text := "y".toList, location := place }
  let e : Token :=
    { kind := .endOfFile, text := endText, location := place, startsLine := true }
  have hcomplete : Comment.Complete "/+ /+ # +/ */ \n ' +/".toList := by
    obtain ⟨c, htext, hinside, -⟩ :=
      Comment.inside_afterNested 0 " /+ # +/ */ \n ' +/".toList
    have hafter : Comment.afterNested 0 " /+ # +/ */ \n ' +/".toList = (.outside, []) := by decide
    rw [hafter, List.append_nil] at htext
    rw [hafter, ← htext] at hinside
    exact ⟨.nested, _, rfl, hinside⟩
  have hblank : ∀ d, "1 ".toList.getLast? = some d → isBlank d = true := by
    intro d hd
    have hlast : "1 ".toList.getLast? = some ' ' := rfl
    obtain rfl := Option.some.inj (hlast.symm.trans hd)
    decide
  have hone : tokenizeText [] {} "1 ".toList = .ok ([one] ++ [e]) := by decide +kernel
  have hprobe : tokenizeText [] {} ("1 ".toList ++ ['x']) = .ok ([one] ++ [x, e]) := by
    decide +kernel
  have hwithout : tokenizeText [] {} ("1 ".toList ++ ' ' :: "= y".toList) =
      .ok [one, assign, y, e] := by
    decide +kernel
  rcases (tokenizeText_comment (b := "= y".toList) hcomplete hblank hone hprobe).1 with
    ⟨us, us', hwith, hwithout', hlexemes⟩ | ⟨fault, place, place', -, hwithout'⟩
  · obtain rfl := Except.ok.inj (hwithout.symm.trans hwithout')
    exact ⟨_, _, _, [one], us, _, x, e, e, rfl, hcomplete, hblank, hone, hprobe, hwith, hwithout,
      hlexemes, rfl⟩
  · rw [hwithout] at hwithout'
    cases hwithout'

end ScriptLexer
