import ScriptLexer.Proofs.Lexeme.Number

/-!
# How far a number goes

A number goes on over name characters and single dots.  Where it has to end is said here without
reading it (`Number.Cut`): there is one place on the line that fits, and it is there that the number
is cut off.

The reader looks one character ahead to see whether a dot is the first of two.  A pass that never
looks ahead takes the dot, counts it, and gives it back when the second one follows.  Both find the
same number.
-/

namespace ScriptLexer.Number

/-! ## Where a number ends -/

/-- `text` is made as a number is and cannot be made longer or shorter when `rest` follows it. -/
structure Cut (text rest : Text) : Prop where
  /-- It is made of dots and name characters. -/
  parts : ∀ c ∈ text, c = '.' ∨ Name.isPart c = true
  /-- It holds no two dots in a row. -/
  apart : ¬ ['.', '.'] <:+: text
  /-- No name character follows. -/
  stops : ∀ c, rest.head? = some c → Name.isPart c = false
  /-- A dot follows only as the first of two, and only if there is none in front of them. -/
  dots : rest.head? = some '.' → ['.', '.'] <+: rest ∧ text.getLast? ≠ some '.'

lemma cut_nil {rest : Text} (hstops : ∀ c, rest.head? = some c → Name.isPart c = false)
    (hdots : rest.head? = some '.' → ['.', '.'] <+: rest) : Cut [] rest where
  parts := by simp
  apart := by simp
  stops := hstops
  dots hhead := ⟨hdots hhead, by simp⟩

/-- One more character in front, unless it is a dot that another one follows. -/
lemma Cut.cons {c : Char} {text rest : Text} (h : Cut text rest)
    (hc : c = '.' ∨ Name.isPart c = true) (hdots : doubleDot (c :: (text ++ rest)) = false) :
    Cut (c :: text) rest where
  parts := List.forall_mem_cons.2 ⟨hc, h.parts⟩
  apart := by
    rw [List.infix_cons_iff]
    rintro (hfirst | hlater)
    · obtain ⟨rfl, u, rfl⟩ := List.cons_prefix_cons.1 hfirst
      simp [doubleDot] at hdots
    · exact h.apart hlater
  stops := h.stops
  dots hhead := by
    refine ⟨(h.dots hhead).1, ?_⟩
    cases text with
    | nil =>
      -- the last character is the new one, which would be the first of two dots
      intro hlast
      obtain rfl : c = '.' := by simpa using hlast
      exact Bool.eq_false_iff.1 hdots (doubleDot_cons_iff.2 ⟨rfl, hhead⟩)
    | cons d text =>
      rw [List.getLast?_cons_cons]
      exact (h.dots hhead).2

lemma exists_cut_continuation (t : Text) :
    ∃ rest, t = continuation t ++ rest ∧ Cut (continuation t) rest := by
  fun_induction continuation t with
  | case1 => exact ⟨[], rfl, cut_nil (by simp) (by simp)⟩
  | case2 c r hdots =>
    obtain ⟨rfl, hhead⟩ := doubleDot_cons_iff.1 hdots
    obtain ⟨r, rfl⟩ := List.head?_eq_some_iff.1 hhead
    refine ⟨'.' :: '.' :: r, rfl, cut_nil ?_ fun _ => List.prefix_append ['.', '.'] r⟩
    intro c hc
    obtain rfl : '.' = c := Option.some.inj hc
    decide
  | case3 c r hdots hc ih =>
    obtain ⟨rest, hr, hcut⟩ := ih
    refine ⟨rest, congrArg (c :: ·) hr, hcut.cons hc ?_⟩
    rw [← hr]
    exact Bool.eq_false_iff.2 hdots
  | case4 c r _ hc =>
    rw [not_or] at hc
    refine ⟨c :: r, rfl, cut_nil ?_ fun hhead => absurd (Option.some.inj hhead) hc.1⟩
    intro d hd
    obtain rfl : c = d := Option.some.inj hd
    exact Bool.eq_false_iff.2 hc.2

lemma exists_cut_leading {line : Text} (h : begins line = true) :
    ∃ rest, line = leading line ++ rest ∧ Cut (leading line) rest := by
  cases line with
  | nil => simp [begins] at h
  | cons c t =>
    have hdots := doubleDot_eq_false_of_begins h
    have hleading : leading (c :: t) = c :: continuation t := by
      rw [leading, hdots, if_neg Bool.false_ne_true]
    have hc : c = '.' ∨ Name.isPart c = true :=
      mem_leading h (by rw [hleading]; exact List.mem_cons_self)
    obtain ⟨rest, ht, hcut⟩ := exists_cut_continuation t
    rw [hleading]
    refine ⟨rest, congrArg (c :: ·) ht, hcut.cons hc ?_⟩
    rw [← ht]
    exact hdots

/-- A longer text cannot be cut off as well: it would go on with a dot, of which there are two. -/
lemma Cut.eq_nil_of_append {text u rest : Text} (h : Cut text (u ++ rest))
    (h' : Cut (text ++ u) rest) : u = [] := by
  cases u with
  | nil => rfl
  | cons c v =>
    exfalso
    have hc : c = '.' := by
      refine (h'.parts c (by simp)).resolve_right fun hpart => ?_
      rw [h.stops c rfl] at hpart
      cases hpart
    subst hc
    obtain ⟨htwo, -⟩ := h.dots rfl
    obtain ⟨-, hsecond⟩ := List.cons_prefix_cons.1 htwo
    cases v with
    | nil =>
      -- the longer text ends with the first of the two dots
      obtain ⟨w, rfl⟩ := hsecond
      exact (h'.dots rfl).2 (by simp)
    | cons d w =>
      -- the longer text holds both
      obtain ⟨rfl, -⟩ := List.cons_prefix_cons.1 hsecond
      exact h'.apart ⟨text, w, by simp⟩

/-- There is one place at most at which a number can be cut off. -/
lemma Cut.eq {text rest text' rest' : Text} (h : Cut text rest) (h' : Cut text' rest')
    (heq : text ++ rest = text' ++ rest') : text = text' := by
  rcases List.append_eq_append_iff.1 heq with ⟨u, rfl, rfl⟩ | ⟨u, rfl, rfl⟩
  · rw [h.eq_nil_of_append h', List.append_nil]
  · rw [h'.eq_nil_of_append h, List.append_nil]

/-! ## One pass over the line -/

/-- What a pass that does not look ahead keeps in mind. -/
structure Pass where
  /-- How many characters have been taken. -/
  length : Nat
  /-- How many of them are dots. -/
  dots : Nat
  /-- Whether the last of them is a dot. -/
  afterDot : Bool

/-- Goes on over name characters and dots.  A dot behind a dot ends the number, and the one that was
taken is given back. -/
def Pass.follow (p : Pass) : Text → Pass
  | [] => p
  | c :: r =>
    if c = '.' then
      if p.afterDot then { p with length := p.length - 1, dots := p.dots - 1 }
      else follow ⟨p.length + 1, p.dots + 1, true⟩ r
    else if Name.isPart c then follow ⟨p.length + 1, p.dots, false⟩ r
    else p

/-- The number at the start of a line, found in one pass.  It has a fraction if dots were counted. -/
def readInOnePass? : Text → Option Lexeme
  | [] => none
  | c :: r =>
    let p := Pass.follow ⟨1, if c = '.' then 1 else 0, c == '.'⟩ r
    some
      { kind := if p.dots = 0 then .intLiteral else .floatLiteral
        text := (c :: r).take p.length }

/-- What continues a number is the number that would begin there. -/
lemma continuation_cons (c : Char) (r : Text) :
    continuation (c :: r) =
      if c = '.' ∨ Name.isPart c = true then leading (c :: r) else [] := by
  rw [continuation, leading]
  split_ifs with hdots hc hc
  · rfl
  · exact absurd (Or.inl (doubleDot_cons_iff.1 hdots).1) hc
  · rfl
  · rfl

lemma leading_cons_cons (c d : Char) (r : Text) :
    leading (c :: d :: r) =
      if c = '.' ∧ d = '.' then []
      else if d = '.' ∨ Name.isPart d = true then c :: leading (d :: r)
      else [c] := by
  have hdots : doubleDot (c :: d :: r) = true ↔ c = '.' ∧ d = '.' := by simp [doubleDot]
  rw [leading, continuation_cons]
  simp only [hdots]
  split_ifs <;> rfl

/-- A pass that has just taken the character `c` goes on to take what a number from there on has,
and counts its dots. -/
lemma Pass.follow_eq (c : Char) (r : Text) (n d : Nat) :
    ∃ afterDot, Pass.follow ⟨n + 1, d + (if c = '.' then 1 else 0), c == '.'⟩ r =
      ⟨n + (leading (c :: r)).length, d + (leading (c :: r)).count '.', afterDot⟩ := by
  induction r generalizing c n d with
  | nil =>
    have hleading : leading [c] = [c] := rfl
    refine ⟨c == '.', ?_⟩
    rw [hleading, List.count_singleton]
    simp [follow]
  | cons e r ih =>
    rw [follow, leading_cons_cons]
    by_cases he : e = '.'
    · subst he
      by_cases hc : c = '.'
      · -- the dot taken before is given back
        exact ⟨true, by simp [hc]⟩
      · obtain ⟨afterDot, hlater⟩ := ih '.' (n + 1) d
        refine ⟨afterDot, ?_⟩
        simpa [hc, Nat.add_assoc, Nat.add_comm] using hlater
    · by_cases hpart : Name.isPart e = true
      · obtain ⟨afterDot, hlater⟩ := ih e (n + 1) (d + if c = '.' then 1 else 0)
        refine ⟨afterDot, ?_⟩
        simpa [he, hpart, beq_eq_false_iff_ne.2 he, List.count_cons, Nat.add_assoc,
          Nat.add_comm, Nat.add_left_comm] using hlater
      · exact ⟨c == '.', by simp [he, hpart, List.count_singleton]⟩

lemma kind_of_mem {t : Text} (h : '.' ∈ t) : kind t = .floatLiteral :=
  if_pos (List.contains_iff_mem.2 h)

lemma kind_of_not_mem {t : Text} (h : '.' ∉ t) : kind t = .intLiteral :=
  if_neg (mt List.contains_iff_mem.1 h)

/-- The pass and the reader find the same, on every line. -/
lemma readInOnePass?_eq (line : Text) : readInOnePass? line = read? line := by
  cases line with
  | nil => rfl
  | cons c r =>
    obtain ⟨afterDot, hpass⟩ := Pass.follow_eq c r 0 0
    have htext : (c :: r).take (leading (c :: r)).length = leading (c :: r) :=
      (List.prefix_iff_eq_take.1 (leading_isPrefix _)).symm
    simp only [Nat.zero_add] at hpass
    have hkind : (if (leading (c :: r)).count '.' = 0 then Kind.intLiteral else .floatLiteral) =
        kind (leading (c :: r)) := by
      by_cases hdot : '.' ∈ leading (c :: r)
      · rw [if_neg (List.count_pos_iff.2 hdot).ne', kind_of_mem hdot]
      · rw [if_pos (List.count_eq_zero.2 hdot), kind_of_not_mem hdot]
    unfold readInOnePass? read?
    rw [if_neg (List.cons_ne_nil c r)]
    simp only [hpass, htext, hkind]
    rfl

/-- **A number is cut off where a number ends.**  Wherever a number begins, a piece of the line is
found, in one pass or with a look ahead.  It is not empty, it is made of name characters and single
dots, and it goes as far as such a text can: no name character follows it, and no dot unless there
are two.  This is so for no other beginning of the line.  The number has a fraction exactly if there
is a dot in it. -/
theorem read?_cut {line : Text} (h : begins line = true) :
    ∃ l rest, read? line = some l ∧ readInOnePass? line = some l ∧ line = l.text ++ rest ∧
      l.text ≠ [] ∧ Cut l.text rest ∧ (l.kind = .floatLiteral ↔ '.' ∈ l.text) ∧
      (l.kind = .intLiteral ↔ '.' ∉ l.text) ∧ l.value = [] ∧
      ∀ text' rest', line = text' ++ rest' → Cut text' rest' → text' = l.text := by
  have hread : read? line = some (lexeme line) := by
    cases line with
    | nil => simp [begins] at h
    | cons c r => exact if_neg (List.cons_ne_nil c r)
  obtain ⟨rest, hline, hcut⟩ := exists_cut_leading h
  refine ⟨lexeme line, rest, hread, (readInOnePass?_eq line).trans hread, hline,
    leading_ne_nil h, hcut, ?_, ?_, rfl, ?_⟩
  · show kind (leading line) = .floatLiteral ↔ '.' ∈ leading line
    by_cases hdot : '.' ∈ leading line
    · simp [kind_of_mem hdot, hdot]
    · simp [kind_of_not_mem hdot, hdot]
  · show kind (leading line) = .intLiteral ↔ '.' ∉ leading line
    by_cases hdot : '.' ∈ leading line
    · simp [kind_of_mem hdot, hdot]
    · simp [kind_of_not_mem hdot, hdot]
  · intro text' rest' hline' hcut'
    exact hcut'.eq hcut (hline'.symm.trans hline)

/-- Dots in front, between name characters, and three in a row at the end. -/
theorem read?_cut_dots :
    begins ".5.e3.x...2".toList = true ∧
      readInOnePass? ".5.e3.x...2".toList =
        some { kind := .floatLiteral, text := ".5.e3.x".toList } ∧
      Cut ".5.e3.x".toList "...2".toList ∧
      ∀ text' rest', ".5.e3.x...2".toList = text' ++ rest' → Cut text' rest' →
        text' = ".5.e3.x".toList := by
  have hbegins : begins ".5.e3.x...2".toList = true := rfl
  obtain ⟨l, rest, hread, hpass, hline, -, hcut, -, -, -, honly⟩ := read?_cut hbegins
  obtain rfl : { kind := .floatLiteral, text := ".5.e3.x".toList } = l := Option.some.inj hread
  have hsplit : ".5.e3.x".toList ++ "...2".toList = ".5.e3.x".toList ++ rest := hline
  obtain rfl : "...2".toList = rest := List.append_cancel_left hsplit
  exact ⟨hbegins, hpass, hcut, honly⟩

end ScriptLexer.Number
