import ScriptLexer.Text.Blank

/-!
# Comments

There are three forms of comments:

* from `//` to the end of the line;
* from `/*` to the next `*/`;
* from `/+` to the `+/` that closes it, with further pairs of these marks inside.

The last two may go on over several lines, so the mode in which a line ends is the mode in which the
next one begins.  Marks count only where a token could begin.  There a closing mark without a
comment to close is a fault.
-/

namespace ScriptLexer.Comment

/-- Where a place in the text is relative to comments. -/
inductive Mode where
  /-- In no comment. -/
  | outside
  /-- In a comment that the next `*/` closes. -/
  | block
  /-- In a comment with `extra` open pairs inside it. -/
  | nested (extra : Nat)
deriving DecidableEq, Repr

namespace Mode

/-- The name of a mode, the same at every depth. -/
def name : Mode → Text
  | .outside => "NORMAL"
  | .block => "BLOCK"
  | .nested _ => "NEST"

/-- How many closing marks a nested comment still needs. -/
def depth : Mode → Nat
  | .outside | .block => 0
  | .nested extra => extra + 1

/-- Whether a comment is open. -/
def isOpen : Mode → Bool
  | .outside => false
  | .block | .nested _ => true

end Mode

/-- The forms of comments that have a closing mark. -/
inductive Form where
  | block | nested
deriving DecidableEq, Repr

/-- The mode just after the opening mark. -/
def Form.opened : Form → Mode
  | .block => .block
  | .nested => .nested 0

/-- What follows the first `*/`. -/
def afterBlock? : Text → Option Text
  | [] => none
  | [_] => none
  | a :: b :: r => if a = '*' ∧ b = '/' then some r else afterBlock? (b :: r)

/-- Follows the marks of a nested comment from left to right, up to the one that closes it: the mode
reached and what follows.  The two characters of a mark belong to no other mark. -/
def afterNested (extra : Nat) : Text → Mode × Text
  | [] => (.nested extra, [])
  | [_] => (.nested extra, [])
  | a :: b :: r =>
    if a = '/' ∧ b = '+' then afterNested (extra + 1) r
    else if a = '+' ∧ b = '/' then
      match extra with
      | 0 => (.outside, r)
      | extra + 1 => afterNested extra r
    else afterNested extra (b :: r)

/-- Leaves the comment that is open at the start of a text: the mode reached and what follows, empty
if the comment stays open.  Blanks behind a comment are dropped. -/
def leave : Mode → Text → Mode × Text
  | .outside, t => (.outside, t)
  | .block, t =>
    match afterBlock? t with
    | some r => (.outside, Text.trimStart r)
    | none => (.block, [])
  | .nested extra, t => ((afterNested extra t).1, Text.trimStart (afterNested extra t).2)

/-- What stands at a place outside comments. -/
inductive Front where
  /-- The end of the line, or a comment up to it. -/
  | nothing
  /-- An opening mark and the text behind it. -/
  | opening (form : Form) (rest : Text)
  /-- A closing mark. -/
  | closing (form : Form)
  /-- Text of the script. -/
  | code
deriving DecidableEq, Repr

/-- Looks at the start of a text. -/
def front : Text → Front
  | [] => .nothing
  | [_] => .code
  | a :: b :: r =>
    if a = '/' then
      if b = '/' then .nothing
      else if b = '*' then .opening .block r
      else if b = '+' then .opening .nested r
      else .code
    else if b = '/' then
      if a = '*' then .closing .block
      else if a = '+' then .closing .nested
      else .code
    else .code

/-- What is left when the comments in front of a text are gone. -/
inductive Outcome where
  /-- Text of the script, empty if the line holds no more of it. -/
  | code (rest : Text)
  /-- A closing mark that closes nothing, at the start of the given text. -/
  | stray (form : Form) (rest : Text)
deriving DecidableEq, Repr

/-- The result of passing over comments. -/
structure Skipped where
  /-- What follows them. -/
  outcome : Outcome
  /-- The mode there. -/
  mode : Mode
  /-- The modes left and entered on the way, in order. -/
  changes : List (Mode × Mode)
deriving DecidableEq, Repr

/-- The change from a mode to another, if these have different names. -/
def change (old new : Mode) : List (Mode × Mode) :=
  if old.name = new.name then [] else [(old, new)]

/-- The result with earlier changes in front of its own. -/
def Skipped.after (changes : List (Mode × Mode)) (s : Skipped) : Skipped :=
  { s with changes := changes ++ s.changes }

theorem length_of_afterBlock? {t r : Text} (h : afterBlock? t = some r) :
    r.length ≤ t.length := by
  fun_induction afterBlock? t with
  | case1 => cases h
  | case2 => cases h
  | case3 a b rest _ =>
    cases h
    simp only [List.length_cons]
    omega
  | case4 a b rest _ ih => exact Nat.le_succ_of_le (ih h)

theorem length_afterNested_le (extra : Nat) (t : Text) :
    (afterNested extra t).2.length ≤ t.length := by
  fun_induction afterNested extra t <;> simp only [List.length_cons, List.length_nil] at * <;> omega

theorem length_leave_le (m : Mode) (t : Text) : (leave m t).2.length ≤ t.length := by
  unfold leave
  split
  · exact Nat.le_refl _
  · split
    · rename_i h
      exact Nat.le_trans (Text.length_trimStart_le _) (length_of_afterBlock? h)
    · exact Nat.zero_le _
  · exact Nat.le_trans (Text.length_trimStart_le _) (length_afterNested_le _ _)

theorem length_of_front {t r : Text} {form : Form} (h : front t = .opening form r) :
    r.length < t.length := by
  unfold front at h
  split at h
  · cases h
  · cases h
  · repeat' split at h
    all_goals cases h
    all_goals
      simp only [List.length_cons]
      omega

/-- Passes over the comments at the start of a text, beginning in the given mode. -/
def skip (m : Mode) (t : Text) : Skipped :=
  let inner := leave m t
  match _ : front inner.2 with
  | .nothing => ⟨.code [], inner.1, change m inner.1⟩
  | .code => ⟨.code inner.2, inner.1, change m inner.1⟩
  | .closing form => ⟨.stray form inner.2, inner.1, change m inner.1⟩
  | .opening form rest =>
    (skip form.opened rest).after (change m inner.1 ++ change inner.1 form.opened)
termination_by t.length
decreasing_by
  rename_i h
  exact Nat.lt_of_lt_of_le (length_of_front h) (length_leave_le m t)

/-- Passing over comments never makes the text longer. -/
theorem length_of_skip {m : Mode} {t rest : Text} (h : (skip m t).outcome = .code rest) :
    rest.length ≤ t.length := by
  fun_induction skip m t with
  | case1 =>
    cases h
    exact Nat.zero_le _
  | case2 =>
    cases h
    exact length_leave_le _ _
  | case3 => cases h
  | case4 m t inner form r hopen ih =>
    have opened : r.length < inner.2.length := length_of_front hopen
    have left : inner.2.length ≤ t.length := length_leave_le m t
    have := ih h
    omega

end ScriptLexer.Comment
