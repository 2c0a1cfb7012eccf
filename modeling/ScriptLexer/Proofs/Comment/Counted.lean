import Mathlib.Data.List.Infix
import ScriptLexer.Fault
import ScriptLexer.Proofs.Comment.Skip
import ScriptLexer.Proofs.Lexeme.Guarded

/-!
# Comments with the depth counted apart

A `Mode` has a depth only inside a nested comment, so it cannot be wrong.  Here the form of the open
comment and the depth are two things, each changed for itself while a line is read, and nothing but
the run keeps them in step.  The depth is an integer, and it is a breach if a closing mark makes it
negative, or if the marks of a comment are more than the rounds in which they are followed.  What is
inside a comment is searched for the first mark, the text behind the mark and the blanks there is
searched again, and of two marks the one that stands further in front counts.

* `Counted.skip` passes over the comments at the start of a line in this way.
* `Counted.answers` answers any calls, one after the other, also behind calls that failed.

From the start on, the two things always make up a mode, and every call gives what it gives in that
mode (`Counted.answers_ofMode`).  So there is never a breach, and the depth is positive exactly in
nested comments.
-/

namespace ScriptLexer.Comment

/-! ## The first mark -/

/-- How many characters stand in front of the first occurrence of a mark. -/
def find? (mark : Text) (t : Text) : Option Nat := t.tails.findIdx? mark.isPrefixOf

lemma find?_cons (mark : Text) (a : Char) (t : Text) :
    find? mark (a :: t) =
      if mark.isPrefixOf (a :: t) then some 0 else (find? mark t).map (· + 1) := by
  rw [find?, List.tails_cons, List.findIdx?_cons]
  rfl

@[simp] lemma find?_singleton (x y a : Char) : find? [x, y] [a] = none := by
  simp [find?, List.isPrefixOf]

@[simp] lemma find?_self (x y : Char) (t : Text) : find? [x, y] (x :: y :: t) = some 0 := by
  simp [find?_cons, List.isPrefixOf]

lemma find?_of_ne {x y a b : Char} (h : ¬ (a = x ∧ b = y)) (t : Text) :
    find? [x, y] (a :: b :: t) = (find? [x, y] (b :: t)).map (· + 1) := by
  have hprefix : ¬ [x, y].isPrefixOf (a :: b :: t) = true := by
    simp only [List.isPrefixOf, Bool.and_true, Bool.and_eq_true, beq_iff_eq]
    exact fun hmark => h ⟨hmark.1.symm, hmark.2.symm⟩
  rw [find?_cons, if_neg hprefix]

/-- The first mark in a nested comment, with the number of characters in front of it. -/
inductive Marked where
  /-- There is none. -/
  | nothing
  /-- One more pair is opened. -/
  | opened (before : Nat)
  /-- The innermost pair is closed. -/
  | closed (before : Nat)
deriving DecidableEq, Repr

/-- The first mark in the text of a nested comment. -/
def marked (t : Text) : Marked :=
  match find? ['/', '+'] t, find? ['+', '/'] t with
  | none, none => .nothing
  | some i, none => .opened i
  | none, some j => .closed j
  | some i, some j => if i < j then .opened i else .closed j

/-- The same mark, seen from one character further in front. -/
def Marked.succ : Marked → Marked
  | .nothing => .nothing
  | .opened before => .opened (before + 1)
  | .closed before => .closed (before + 1)

@[simp] lemma marked_singleton (a : Char) : marked [a] = .nothing := by
  simp [marked]

@[simp] lemma marked_opening (t : Text) : marked ('/' :: '+' :: t) = .opened 0 := by
  rw [marked, find?_self, find?_of_ne (by decide)]
  cases find? ['+', '/'] ('+' :: t) <;> rfl

@[simp] lemma marked_closing (t : Text) : marked ('+' :: '/' :: t) = .closed 0 := by
  rw [marked, find?_self, find?_of_ne (by decide)]
  cases find? ['/', '+'] ('/' :: t) <;> rfl

/-- Where no mark begins, the first one is that of the text behind. -/
lemma marked_of_ne {a b : Char} (hopen : ¬ (a = '/' ∧ b = '+')) (hclose : ¬ (a = '+' ∧ b = '/'))
    (t : Text) : marked (a :: b :: t) = (marked (b :: t)).succ := by
  rw [marked, find?_of_ne hopen, find?_of_ne hclose, marked]
  rcases find? ['/', '+'] (b :: t) with _ | i <;> rcases find? ['+', '/'] (b :: t) with _ | j
  · rfl
  · rfl
  · rfl
  · simp only [Option.map_some, Nat.add_lt_add_iff_right]
    split_ifs <;> rfl

/-- What follows the mark behind so many characters, and the blanks there. -/
def afterMark (t : Text) (before : Nat) : Text := Text.trimStart (t.drop (before + 2))

lemma length_afterMark_le (t : Text) (before : Nat) :
    (afterMark t before).length ≤ t.length - (before + 2) := by
  rw [← List.length_drop]
  exact Text.length_trimStart_le _

/-- The marks of a nested comment, followed from the first one on. -/
lemma afterNested_eq (extra : Nat) (t : Text) :
    afterNested extra t =
      match marked t, extra with
      | .nothing, extra => (.nested extra, [])
      | .opened i, extra => afterNested (extra + 1) (t.drop (i + 2))
      | .closed i, 0 => (.outside, t.drop (i + 2))
      | .closed i, extra + 1 => afterNested extra (t.drop (i + 2)) := by
  fun_induction afterNested extra t with
  | case1 extra => rfl
  | case2 extra a => rw [marked_singleton]
  | case3 extra a b r hmark =>
    obtain ⟨rfl, rfl⟩ := hmark
    rw [marked_opening]
    rfl
  | case4 a b r _ hmark =>
    obtain ⟨rfl, rfl⟩ := hmark
    rw [marked_closing]
    rfl
  | case5 a b r _ hmark extra =>
    obtain ⟨rfl, rfl⟩ := hmark
    rw [marked_closing]
    rfl
  | case6 extra a b r hopen hclose ih =>
    rw [ih, marked_of_ne hopen hclose]
    cases marked (b :: r) with
    | nothing => rfl
    | opened i => rfl
    | closed i => cases extra <;> rfl

lemma afterBlock?_eq (t : Text) :
    afterBlock? t = (find? ['*', '/'] t).map fun i => t.drop (i + 2) := by
  fun_induction afterBlock? t with
  | case1 => rfl
  | case2 a => rw [find?_singleton, Option.map_none]
  | case3 a b r hmark =>
    obtain ⟨rfl, rfl⟩ := hmark
    rw [find?_self]
    rfl
  | case4 a b r hmark ih =>
    rw [ih, find?_of_ne hmark, Option.map_map]
    rfl

lemma afterNested_of_length_lt (extra : Nat) {t : Text} (h : t.length < 2) :
    afterNested extra t = (.nested extra, []) := by
  rcases t with _ | ⟨a, _ | ⟨b, t⟩⟩
  · rfl
  · rfl
  · simp only [List.length_cons] at h
    omega

/-- Blanks are no part of a mark. -/
lemma afterNested_trimStart (extra : Nat) (t : Text) :
    afterNested extra (Text.trimStart t) = afterNested extra t := by
  induction t with
  | nil => rfl
  | cons c t ih =>
    cases hc : isBlank c with
    | false => rw [Text.trimStart, List.dropWhile_cons_of_neg (by simp [hc])]
    | true =>
      rw [Text.trimStart, List.dropWhile_cons_of_pos hc, ← Text.trimStart, ih]
      cases t with
      | nil => rfl
      | cons b t =>
        have hmark : ∀ mark, isBlank mark = false → c ≠ mark := by
          rintro mark hmark rfl
          rw [hc] at hmark
          cases hmark
        simp [afterNested, hmark '/' (by decide), hmark '+' (by decide)]

/-! ## Two things kept apart -/

/-- The form of the open comment, none outside comments. -/
def Mode.form? : Mode → Option Form
  | .outside => none
  | .block => some .block
  | .nested _ => some .nested

/-- Where a place in the text is relative to comments, told by two things. -/
structure Counted where
  /-- The form of the open comment, none outside comments. -/
  form : Option Form := none
  /-- How many closing marks a nested comment still needs. -/
  depth : Int := 0
deriving DecidableEq, Repr

namespace Counted

/-- A mode told by two things. -/
def ofMode (m : Mode) : Counted := ⟨m.form?, m.depth⟩

/-- The mode that two things tell, if they are in step. -/
def mode (c : Counted) : Mode :=
  match c.form with
  | none => .outside
  | some .block => .block
  | some .nested => .nested (c.depth.toNat - 1)

@[simp] lemma mode_ofMode (m : Mode) : (ofMode m).mode = m := by
  cases m <;> rfl

/-- What the two things have to do with each other. -/
structure Sound (c : Counted) : Prop where
  one_le_depth_iff : 1 ≤ c.depth ↔ c.form = some .nested
  depth_eq_zero : c.form ≠ some .nested → c.depth = 0

lemma sound_ofMode (m : Mode) : (ofMode m).Sound := by
  cases m with
  | outside => constructor <;> decide
  | block => constructor <;> decide
  | nested extra =>
    constructor
    · exact ⟨fun _ => rfl, fun _ => by simp only [ofMode, Mode.depth]; omega⟩
    · exact fun h => absurd rfl h

/-! ## Passing over comments -/

/-- Looks for the end of a block comment. -/
def leaveBlock (c : Counted) (t : Text) : Counted × Text :=
  match find? ['*', '/'] t with
  | none => (c, [])
  | some i => ({ c with form := none }, afterMark t i)

/-- Follows the marks of a nested comment to the one that makes the depth zero. -/
def leaveNested : (rounds : Nat) → Counted → Text → Guarded (Counted × Text)
  | 0, _, _ => .error .unfinished
  | rounds + 1, c, t =>
    if 2 ≤ t.length then
      match marked t with
      | .nothing => .ok (c, [])
      | .opened i => leaveNested rounds { c with depth := c.depth + 1 } (afterMark t i)
      | .closed i =>
        if c.depth - 1 < 0 then .error .negativeDepth
        else if c.depth - 1 = 0 then
          .ok ({ form := none, depth := c.depth - 1 }, afterMark t i)
        else leaveNested rounds { c with depth := c.depth - 1 } (afterMark t i)
    else .ok (c, [])

/-- Leaves the comment that is open at the start of a text. -/
def leave (rounds : Nat) (c : Counted) (t : Text) : Guarded (Counted × Text) :=
  match c.form with
  | none => .ok (c, t)
  | some .block => .ok (c.leaveBlock t)
  | some .nested => c.leaveNested rounds t

/-- Enters a comment.  Only a nested one sets the depth. -/
def enter (c : Counted) : Form → Counted
  | .block => { c with form := some .block }
  | .nested => { form := some .nested, depth := 1 }

lemma length_of_leaveNested {rounds : Nat} {c c' : Counted} {t rest : Text}
    (h : c.leaveNested rounds t = .ok (c', rest)) : rest.length ≤ t.length := by
  have hmark : ∀ t i, (afterMark t i).length ≤ t.length := fun t i =>
    Nat.le_trans (length_afterMark_le t i) (Nat.sub_le _ _)
  fun_induction leaveNested rounds c t with
  | case1 c t => cases h
  | case2 rounds c t hlong hmarked =>
    cases h
    exact Nat.zero_le _
  | case3 rounds c t hlong i hmarked ih => exact Nat.le_trans (ih h) (hmark t i)
  | case4 rounds c t hlong i hmarked hnegative => cases h
  | case5 rounds c t hlong i hmarked hnegative hzero =>
    cases h
    exact hmark t i
  | case6 rounds c t hlong i hmarked hnegative hzero ih => exact Nat.le_trans (ih h) (hmark t i)
  | case7 rounds c t hshort =>
    cases h
    exact Nat.zero_le _

lemma length_of_leave {rounds : Nat} {c c' : Counted} {t rest : Text}
    (h : c.leave rounds t = .ok (c', rest)) : rest.length ≤ t.length := by
  unfold leave at h
  split at h
  · cases h
    exact Nat.le_refl _
  · unfold leaveBlock at h
    split at h
    · cases h
      exact Nat.zero_le _
    · rename_i i hfind
      cases h
      exact Nat.le_trans (length_afterMark_le t i) (Nat.sub_le _ _)
  · exact length_of_leaveNested h

/-- Passes over the comments at the start of a text.  A nested comment has at most as many marks as
characters. -/
def skip (c : Counted) (t : Text) : Guarded (Outcome × Counted) :=
  match _ : c.leave (t.length + 1) t with
  | .error breach => .error breach
  | .ok (c', rest) =>
    match _ : front rest with
    | .nothing => .ok (.code [], c')
    | .code => .ok (.code rest, c')
    | .closing form => .ok (.stray form rest, c')
    | .opening form behind => skip (c'.enter form) behind
termination_by t.length
decreasing_by
  rename_i hleave hfront
  exact Nat.lt_of_lt_of_le (length_of_front hfront) (length_of_leave hleave)

lemma skip_of_leave {c c' : Counted} {t rest : Text}
    (h : c.leave (t.length + 1) t = .ok (c', rest)) :
    c.skip t =
      match front rest with
      | .nothing => .ok (.code [], c')
      | .code => .ok (.code rest, c')
      | .closing form => .ok (.stray form rest, c')
      | .opening form behind => (c'.enter form).skip behind := by
  rw [skip]
  split
  · rename_i breach hbreach
    rw [h] at hbreach
    cases hbreach
  · rename_i hleave
    rw [h] at hleave
    cases hleave
    split <;> simp_all

/-! ## Both ways lead to the same mode -/

lemma leaveBlock_ofMode (t : Text) :
    (ofMode .block).leaveBlock t = (ofMode (Comment.leave .block t).1, (Comment.leave .block t).2) := by
  simp only [leaveBlock, Comment.leave, afterBlock?_eq]
  cases find? ['*', '/'] t <;> rfl

lemma eq_ofMode_nested {c : Counted} {extra : Nat} (hform : c.form = some .nested)
    (hdepth : c.depth = extra + 1) : c = ofMode (.nested extra) := by
  obtain ⟨form, depth⟩ := c
  subst hform hdepth
  rfl

/-- In a nested comment the depth is positive, and every round but the last passes over a mark, so there
is no breach. -/
lemma leaveNested_eq {rounds : Nat} {c : Counted} {extra : Nat} {t : Text}
    (hform : c.form = some .nested) (hdepth : c.depth = extra + 1) (hrounds : t.length < rounds) :
    c.leaveNested rounds t =
      .ok (ofMode (Comment.leave (.nested extra) t).1, (Comment.leave (.nested extra) t).2) := by
  simp only [Comment.leave]
  have hmark : ∀ {t i rounds}, 2 ≤ t.length → t.length < rounds + 1 →
      (afterMark t i).length < rounds := fun {t i rounds} hlong h =>
    Nat.lt_of_le_of_lt (length_afterMark_le t i) (by omega)
  -- by the marks that are still in front; what they keep is that the depth is a successor
  fun_induction leaveNested rounds c t generalizing extra with
  | case1 c t => omega
  | case2 rounds c t hlong hmarked =>
    rw [afterNested_eq, hmarked, eq_ofMode_nested hform hdepth]
    rfl
  | case3 rounds c t hlong i hmarked ih =>
    have hmore : c.depth + 1 = (extra + 1 : Nat) + 1 := by omega
    rw [ih hform hmore (hmark hlong hrounds), afterMark, afterNested_trimStart,
      afterNested_eq extra t, hmarked]
  | case4 rounds c t hlong i hmarked hnegative => omega
  | case5 rounds c t hlong i hmarked hnegative hzero =>
    obtain rfl : extra = 0 := by omega
    rw [afterNested_eq, hmarked, hzero]
    rfl
  | case6 rounds c t hlong i hmarked hnegative hzero ih =>
    obtain ⟨less, rfl⟩ := Nat.exists_eq_succ_of_ne_zero (fun h => hzero (by omega) : extra ≠ 0)
    have hless : c.depth - 1 = less + 1 := by omega
    rw [ih hform hless (hmark hlong hrounds), afterMark, afterNested_trimStart,
      afterNested_eq (less + 1) t, hmarked]
  | case7 rounds c t hshort =>
    rw [afterNested_of_length_lt extra (Nat.lt_of_not_le hshort), eq_ofMode_nested hform hdepth]
    rfl

lemma leave_ofMode {rounds : Nat} (m : Mode) {t : Text} (h : t.length < rounds) :
    (ofMode m).leave rounds t = .ok (ofMode (Comment.leave m t).1, (Comment.leave m t).2) := by
  cases m with
  | outside => rfl
  | block => exact congrArg Except.ok (leaveBlock_ofMode t)
  | nested extra => exact leaveNested_eq rfl rfl h

lemma enter_ofMode (form : Form) : (ofMode .outside).enter form = ofMode form.opened := by
  cases form <;> rfl

lemma skip_ofMode (m : Mode) (t : Text) :
    (ofMode m).skip t = .ok ((Comment.skip m t).outcome, ofMode (Comment.skip m t).mode) := by
  fun_induction Comment.skip m t with
  | case1 m t inner hfront => rw [skip_of_leave (leave_ofMode m (Nat.lt_succ_self t.length)), hfront]
  | case2 m t inner hfront => rw [skip_of_leave (leave_ofMode m (Nat.lt_succ_self t.length)), hfront]
  | case3 m t inner form hfront => rw [skip_of_leave (leave_ofMode m (Nat.lt_succ_self t.length)), hfront]
  | case4 m t inner form rest hfront ih =>
    have hne : inner.2 ≠ [] := by
      rw [eq_of_front_opening hfront]
      exact form.openingMark_append_ne_nil rest
    -- a comment is opened only where none is open, so that its depth is no longer needed
    have hmode : inner.1 = .outside := (gap_leave_of_ne_nil hne).1
    rw [skip_of_leave (leave_ofMode m (Nat.lt_succ_self t.length)), hfront]
    dsimp only
    rw [show (Comment.leave m t).1 = .outside from hmode, enter_ofMode, ih]
    rfl

end Counted

/-! ## Calls one after the other -/

/-- What can be asked, line by line. -/
inductive Call where
  /-- To pass over the comments at the start of a line. -/
  | filter (line : Text)
  /-- To make sure that no comment is open where the source ends. -/
  | checkClosed
deriving DecidableEq, Repr

/-- What a call gives: the text that is left of its line, if it has one, or a fault. -/
abbrev Answer := Except Fault (Option Text)

/-- What is left of a line, as an answer. -/
def Outcome.answer : Outcome → Answer
  | .code rest => .ok (some rest)
  | .stray form line => .error (.strayClose form line)

/-- What is wrong where the source ends, as an answer. -/
def Answer.ofFault? : Option Fault → Answer
  | none => .ok none
  | some fault => .error fault

/-- Answers a call: what it gives, and the mode behind it. -/
def Mode.answer (m : Mode) : Call → Answer × Mode
  | .filter line => ((skip m line).outcome.answer, (skip m line).mode)
  | .checkClosed => (Answer.ofFault? m.unclosed?, m)

/-- Answers calls one after the other, also behind one that fails. -/
def Mode.answers (m : Mode) : List Call → List Answer × Mode
  | [] => ([], m)
  | call :: calls =>
    let (answer, m') := m.answer call
    let (answers, last) := m'.answers calls
    (answer :: answers, last)

namespace Counted

/-- The fault of a source that ends here. -/
def unclosed? (c : Counted) : Option Fault :=
  match c.form with
  | none => none
  | some .block => some .openBlock
  | some .nested => some (.openNested c.depth.toNat)

/-- Answers a call. -/
def answer (c : Counted) : Call → Guarded (Answer × Counted)
  | .filter line => (c.skip line).map fun (outcome, c') => (outcome.answer, c')
  | .checkClosed => .ok (Answer.ofFault? c.unclosed?, c)

/-- Answers calls one after the other, also behind one that fails. -/
def answers (c : Counted) : List Call → Guarded (List Answer × Counted)
  | [] => .ok ([], c)
  | call :: calls =>
    (c.answer call).bind fun (answer, c') =>
      (c'.answers calls).map fun (answers, last) => (answer :: answers, last)

lemma unclosed?_ofMode (m : Mode) : (ofMode m).unclosed? = m.unclosed? := by
  cases m <;> rfl

lemma answer_ofMode (m : Mode) (call : Call) :
    (ofMode m).answer call = .ok ((m.answer call).1, ofMode (m.answer call).2) := by
  cases call with
  | filter line =>
    rw [answer, skip_ofMode]
    rfl
  | checkClosed =>
    rw [answer, unclosed?_ofMode]
    rfl

/-- Any calls give what they give in the mode. -/
lemma answers_ofMode (m : Mode) (calls : List Call) :
    (ofMode m).answers calls = .ok ((m.answers calls).1, ofMode (m.answers calls).2) := by
  induction calls generalizing m with
  | nil => rfl
  | cons call calls ih =>
    rw [answers, answer_ofMode]
    simp only [Except.bind]
    rw [ih]
    rfl

end Counted

/-! ## What a call leaves -/

/-- The marks that have a meaning outside comments. -/
def frontMarks : List Text :=
  ["//".toList, "/*".toList, "/+".toList, "*/".toList, "+/".toList]

/-- Text of the script is any that begins with no mark. -/
lemma front_eq_code_iff {t : Text} :
    front t = .code ↔ t ≠ [] ∧ ∀ mark ∈ frontMarks, ¬ mark <+: t := by
  rcases t with _ | ⟨a, _ | ⟨b, r⟩⟩
  · simp [front]
  · simp [front, frontMarks]
  · simp only [front, frontMarks, String.reduceToList, List.forall_mem_cons, List.cons_prefix_cons,
      List.nil_prefix, and_true, @eq_comm _ _ a, @eq_comm _ _ b]
    split_ifs <;> simp_all

namespace Mode

variable {m : Mode} {line : Text}

lemma outcome_of_answer_filter {rest : Text} (h : (m.answer (.filter line)).1 = .ok (some rest)) :
    (skip m line).outcome = .code rest := by
  change (skip m line).outcome.answer = _ at h
  cases houtcome : (skip m line).outcome with
  | code rest' =>
    rw [houtcome] at h
    cases h
    rfl
  | stray form line' =>
    rw [houtcome] at h
    cases h

/-- Only where nothing is left of a line a comment may be open. -/
lemma eq_outside_of_answer_filter (h : (m.answer (.filter line)).1 ≠ .ok (some [])) :
    (m.answer (.filter line)).2 = .outside := by
  change (skip m line).mode = .outside
  cases houtcome : (skip m line).outcome with
  | code rest =>
    have hne : rest ≠ [] := by
      rintro rfl
      exact h (congrArg Outcome.answer houtcome)
    exact (gap_of_skip houtcome hne).1
  | stray form rest => exact (gap_of_skip_stray houtcome).1

/-- What is left of a line ends it and begins with no mark, and all of it is left again. -/
lemma answer_filter_again {rest : Text} (h : (m.answer (.filter line)).1 = .ok (some rest))
    (hne : rest ≠ []) :
    rest <:+ line ∧ (∀ mark ∈ frontMarks, ¬ mark <+: rest) ∧
      (m.answer (.filter line)).2.answer (.filter rest) = m.answer (.filter line) := by
  have houtcome := outcome_of_answer_filter h
  obtain ⟨hmode, g, rfl, -⟩ := gap_of_skip houtcome hne
  have hfront := front_of_skip houtcome hne
  refine ⟨List.suffix_append _ _, (front_eq_code_iff.1 hfront).2, ?_⟩
  have hanswer : m.answer (.filter (g ++ rest)) = (.ok (some rest), .outside) := Prod.ext h hmode
  rw [hanswer, answer, skip_outside_of_front hfront]
  rfl

lemma exists_error_answer_checkClosed_iff :
    (∃ fault, (m.answer .checkClosed).1 = .error fault) ↔ m ≠ .outside := by
  cases m <;> simp [answer, unclosed?, Answer.ofFault?]

lemma form?_eq_none_iff : m.form? = none ↔ m = .outside := by
  cases m <;> simp [form?]

end Mode

/-- **The depth keeps in step with the form of the comment.**  From the start of a source let any calls
be answered one after the other, also behind those that fail, with the form of the open comment and
the depth counted apart.  There is never a breach, every call gives what it gives with a mode, and
the depth is positive exactly in nested comments and zero everywhere else.  Behind these calls

* passing over the comments of a line leads out of comments if it fails or leaves something of the
  line; what it leaves ends the line and begins with no mark, and passing over comments again leaves
  all of it and changes nothing;
* making sure that no comment is open changes nothing, and fails exactly if there is one. -/
theorem answers_keep_depth (calls : List Call) :
    ∃ c : Counted, Counted.answers {} calls = .ok ((Mode.outside.answers calls).1, c) ∧
      c = .ofMode (Mode.outside.answers calls).2 ∧
      (1 ≤ c.depth ↔ c.form = some .nested) ∧ (c.form ≠ some .nested → c.depth = 0) ∧
      (∀ line, ∃ answer c', c.answer (.filter line) = .ok (answer, c') ∧
        (answer ≠ .ok (some []) → c'.form = none) ∧
        ∀ rest, answer = .ok (some rest) → rest ≠ [] →
          rest <:+ line ∧ (∀ mark ∈ frontMarks, ¬ mark <+: rest) ∧
          c'.answer (.filter rest) = .ok (.ok (some rest), c')) ∧
      ∃ answer, c.answer .checkClosed = .ok (answer, c) ∧
        ((∃ fault, answer = .error fault) ↔ c.form ≠ none) := by
  have hsound := Counted.sound_ofMode (Mode.outside.answers calls).2
  refine ⟨_, Counted.answers_ofMode .outside calls, rfl, hsound.one_le_depth_iff,
    hsound.depth_eq_zero, ?_, ?_⟩
  · intro line
    refine ⟨_, _, Counted.answer_ofMode _ _, ?_, ?_⟩
    · intro hanswer
      exact Mode.form?_eq_none_iff.2 (Mode.eq_outside_of_answer_filter hanswer)
    · intro rest hanswer hne
      obtain ⟨hsuffix, hmarks, hagain⟩ := Mode.answer_filter_again hanswer hne
      refine ⟨hsuffix, hmarks, ?_⟩
      rw [Counted.answer_ofMode, hagain, hanswer]
  · refine ⟨_, Counted.answer_ofMode _ _, ?_⟩
    rw [Mode.exists_error_answer_checkClosed_iff]
    exact not_congr Mode.form?_eq_none_iff.symm

/-- Two pairs are opened in one line and closed in another, where a mark that closes nothing follows. -/
theorem answers_keep_depth_stray :
    ∃ c : Counted,
      Counted.answers {} [.filter "/* /+ */ /+ a /+ b".toList, .checkClosed,
          .filter "+/+/ */ c".toList] =
        .ok ([.ok (some []), .error (.openNested 2),
          .error (.strayClose .block "*/ c".toList)], c) ∧
      c.form = none ∧ c.depth = 0 ∧
      ∃ c', c.answer (.filter "/+ d +/ e /*".toList) = .ok (.ok (some "e /*".toList), c') ∧
        "e /*".toList <:+ "/+ d +/ e /*".toList ∧
        c'.answer (.filter "e /*".toList) = .ok (.ok (some "e /*".toList), c') := by
  obtain ⟨c, hanswers, hc, -, hdepth, hfilter, -⟩ := answers_keep_depth
    [.filter "/* /+ */ /+ a /+ b".toList, .checkClosed, .filter "+/+/ */ c".toList]
  have hmode : Mode.outside.answers
      [.filter "/* /+ */ /+ a /+ b".toList, .checkClosed, .filter "+/+/ */ c".toList] =
        ([.ok (some []), .error (.openNested 2), .error (.strayClose .block "*/ c".toList)],
          .outside) := by
    decide +kernel
  rw [hmode] at hanswers hc
  have hform : c.form = none := by rw [hc]; rfl
  obtain ⟨answer, c', hanswer, -, hrest⟩ := hfilter "/+ d +/ e /*".toList
  have hleft : answer = .ok (some "e /*".toList) := by
    have hrun : c.answer (.filter "/+ d +/ e /*".toList) =
        .ok (.ok (some "e /*".toList), Counted.ofMode .outside) := by
      rw [hc]
      decide +kernel
    rw [hrun] at hanswer
    cases hanswer
    rfl
  obtain ⟨hsuffix, -, hagain⟩ := hrest _ hleft (by decide)
  exact ⟨c, hanswers, hform, hdepth (by rw [hform]; decide), c', hleft ▸ hanswer, hsuffix, hagain⟩

end ScriptLexer.Comment
