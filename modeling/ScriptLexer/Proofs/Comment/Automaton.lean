import ScriptLexer.Fault
import ScriptLexer.Proofs.Comment.Reached

/-!
# Comments character by character

Passing over comments looks for marks, cuts the text behind them and looks again.  The automaton of
this file does the same in one pass, a character at a time, and remembers no more than the kind of
place it is at, the depth of nested comments and the last character.

* Outside comments, in front of the place that is looked at, `/`, `*` and `+` may be halves of a
  mark; the next character decides.
* In a block comment `/` behind a star ends the comment.
* In a nested comment `/+` and `+/` change the depth.  The character behind which a mark ended is
  forgotten, so that it takes part in no other mark.
* Behind a comment blanks are dropped until there is a place to look at.

The main result is that both ways lead to the same place and the same mode, on any number of lines
(`skip_refines_automaton`).
-/

namespace ScriptLexer.Comment

/-! ## The automaton -/

/-- Where the automaton is between two characters. -/
inductive State where
  /-- Outside comments, in front of the place that is looked at. -/
  | front
  /-- Outside comments, behind a comment and perhaps some blanks. -/
  | gap
  /-- Outside comments, behind a character that may be half of a mark. -/
  | half (c : Char)
  /-- In a block comment, and whether the last character was a star. -/
  | block (star : Bool)
  /-- In a nested comment with `extra` open pairs inside it, and the last character unless a mark
  ended there. -/
  | nested (extra : Nat) (last : Option Char)
deriving DecidableEq, Repr

/-- What a character does. -/
inductive Move where
  /-- The automaton goes on. -/
  | on (s : State)
  /-- The rest of the line is a comment. -/
  | lineComment
  /-- A mark ends that closes nothing. -/
  | stray (form : Form)
  /-- Text of the script begins at the place that is looked at. -/
  | code
deriving DecidableEq, Repr

namespace State

/-- The state in which a line begins. -/
def start : Mode → State
  | .outside => .front
  | .block => .block false
  | .nested extra => .nested extra none

/-- What the first character at a place outside comments does. -/
def look (c : Char) : Move :=
  if c = '/' ∨ c = '*' ∨ c = '+' then .on (.half c) else .code

/-- What a character does in a state. -/
def step : State → Char → Move
  | .front, c => look c
  | .gap, c => if isBlank c then .on .gap else look c
  | .half a, c =>
    if a = '/' ∧ c = '/' then .lineComment
    else if a = '/' ∧ c = '*' then .on (.block false)
    else if a = '/' ∧ c = '+' then .on (.nested 0 none)
    else if a = '*' ∧ c = '/' then .stray .block
    else if a = '+' ∧ c = '/' then .stray .nested
    else .code
  | .block star, c => if star = true ∧ c = '/' then .on .gap else .on (.block (c == '*'))
  | .nested extra last, c =>
    if last = some '/' ∧ c = '+' then .on (.nested (extra + 1) none)
    else if last = some '+' ∧ c = '/' then
      match extra with
      | 0 => .on .gap
      | extra + 1 => .on (.nested extra none)
    else .on (.nested extra (some c))

/-- What has been read of the place that is looked at. -/
def seen : State → Text
  | .half a => [a]
  | _ => []

/-- The mode of a state. -/
def mode : State → Mode
  | .block _ => .block
  | .nested extra _ => .nested extra
  | _ => .outside

/-- Reads a line to its end, or up to the place where something other than a comment is found: what
is left there, and the mode. -/
def read (s : State) : Text → Outcome × Mode
  | [] => (.code s.seen, s.mode)
  | c :: t =>
    match s.step c with
    | .on s' => read s' t
    | .lineComment => (.code [], .outside)
    | .stray form => (.stray form (s.seen ++ c :: t), .outside)
    | .code => (.code (s.seen ++ c :: t), .outside)

/-! ## Outside comments -/

/-- Behind a comment the automaton drops blanks and then looks. -/
lemma read_gap (t : Text) : read .gap t = read .front (Text.trimStart t) := by
  induction t with
  | nil => rfl
  | cons c t ih =>
    cases hc : isBlank c with
    | true =>
      rw [show Text.trimStart (c :: t) = Text.trimStart t from List.dropWhile_cons_of_pos hc, ← ih]
      simp [read, step, hc]
    | false =>
      rw [show Text.trimStart (c :: t) = c :: t from List.dropWhile_cons_of_neg (by simp [hc])]
      simp [read, step, seen, hc]

/-- At a place outside comments the automaton finds what stands there. -/
lemma read_front (t : Text) :
    read .front t =
      match Comment.front t with
      | .nothing => (.code [], .outside)
      | .code => (.code t, .outside)
      | .closing form => (.stray form t, .outside)
      | .opening form rest => read (start form.opened) rest := by
  match t with
  | [] => rfl
  | [a] =>
    by_cases ha : a = '/' ∨ a = '*' ∨ a = '+' <;>
      simp [read, step, look, seen, mode, Comment.front, ha]
  | a :: b :: r =>
    by_cases ha : a = '/' ∨ a = '*' ∨ a = '+'
    · have hlook : read .front (a :: b :: r) = read (.half a) (b :: r) := by
        simp [read, step, look, ha]
      rw [hlook]
      rcases ha with rfl | rfl | rfl
      · by_cases hline : b = '/'
        · simp [read, step, Comment.front, hline]
        by_cases hblock : b = '*'
        · simp [read, step, Comment.front, hblock, start, Form.opened]
        by_cases hnested : b = '+'
        · simp [read, step, Comment.front, hnested, start, Form.opened]
        · simp [read, step, seen, Comment.front, hline, hblock, hnested]
      · by_cases hclose : b = '/' <;> simp [read, step, seen, Comment.front, hclose]
      · by_cases hclose : b = '/' <;> simp [read, step, seen, Comment.front, hclose]
    · -- no mark begins with any other character
      have hcode : Comment.front (a :: b :: r) = .code := by
        push Not at ha
        simp [Comment.front, ha]
      simp [read, step, look, seen, ha, hcode]

/-! ## Inside a comment -/

/-- What the automaton finds at the place where a comment was left in a mode. -/
def ahead : Mode × Text → Outcome × Mode
  | (.outside, t) => read .front t
  | (m, _) => (.code [], m)

/-- The automaton leaves a block comment behind the first `*/`. -/
lemma read_block (t : Text) : read (.block false) t = ahead (leave .block t) := by
  simp only [leave]
  fun_induction afterBlock? t with
  | case1 => rfl
  | case2 a => simp [read, step, seen, mode, ahead]
  | case3 a b r hmark =>
    obtain ⟨rfl, rfl⟩ := hmark
    simp [read, step, ahead, read_gap]
  | case4 a b r hmark ih =>
    -- behind `b` only `b` is remembered, whatever stands in front of it
    have hforget : read (.block false) (a :: b :: r) = read (.block false) (b :: r) := by
      simp [read, step, hmark]
    rw [hforget, ih]

/-- The automaton leaves a nested comment behind the mark that closes it. -/
lemma read_nested (extra : Nat) (t : Text) :
    read (.nested extra none) t = ahead (leave (.nested extra) t) := by
  simp only [leave]
  fun_induction afterNested extra t with
  | case1 extra => rfl
  | case2 extra a => simp [read, step, seen, mode, ahead]
  | case3 extra a b r hmark ih =>
    obtain ⟨rfl, rfl⟩ := hmark
    rw [← ih]
    simp [read, step]
  | case4 a b r _ hmark =>
    obtain ⟨rfl, rfl⟩ := hmark
    simp [read, step, ahead, read_gap]
  | case5 a b r _ hmark extra ih =>
    obtain ⟨rfl, rfl⟩ := hmark
    rw [← ih]
    simp [read, step]
  | case6 extra a b r hopen hclose ih =>
    have hforget :
        read (.nested extra none) (a :: b :: r) = read (.nested extra none) (b :: r) := by
      simp [read, step, hopen, hclose]
    rw [hforget, ih]

/-- Leaving the open comment and then looking is what the automaton does. -/
lemma read_start (m : Mode) (t : Text) : read (start m) t = ahead (leave m t) := by
  cases m with
  | outside => rfl
  | block => exact read_block t
  | nested extra => exact read_nested extra t

end State

/-! ## Both ways lead to the same place -/

/-- If something follows the open comment, the automaton looks at it. -/
lemma ahead_leave {m : Mode} {t : Text} (h : (leave m t).2 ≠ []) :
    State.ahead (leave m t) = State.read .front (leave m t).2 := by
  have hmode : (leave m t).1 = .outside := (gap_leave_of_ne_nil h).1
  generalize leave m t = left at hmode
  obtain ⟨m', r⟩ := left
  subst hmode
  rfl

/-- Passing over comments leads where the automaton leads. -/
lemma reached_skip_eq_read (m : Mode) (t : Text) :
    (skip m t).reached = (State.start m).read t := by
  fun_induction skip m t with
  | case1 m t inner hfront =>
    rw [State.read_start]
    change _ = State.ahead inner
    obtain ⟨m', r⟩ := inner
    cases m' with
    | outside => simp [State.ahead, State.read_front, hfront, Skipped.reached]
    | block => rfl
    | nested extra => rfl
  | case2 m t inner hfront =>
    rw [State.read_start, ahead_leave (ne_nil_of_front_code hfront), State.read_front, hfront]
    exact Prod.ext rfl (gap_leave_of_ne_nil (ne_nil_of_front_code hfront)).1
  | case3 m t inner form hfront =>
    have hne : inner.2 ≠ [] := by
      intro hnil
      simp [hnil, front] at hfront
    rw [State.read_start, ahead_leave hne, State.read_front, hfront]
    exact Prod.ext rfl (gap_leave_of_ne_nil hne).1
  | case4 m t inner form rest hfront ih =>
    have hne : inner.2 ≠ [] := by
      rw [eq_of_front_opening hfront]
      exact form.openingMark_append_ne_nil rest
    rw [Skipped.reached_after, ih, State.read_start m t, ahead_leave hne, State.read_front, hfront]

/-! ## Several lines, and the depth of nested comments -/

/-- The mode behind some lines. -/
def modeBehind (m : Mode) (lines : List Text) : Mode :=
  lines.foldl (fun m line => (skip m line).mode) m

/-- The marks that close the given number of nested comments. -/
def closings (k : Nat) : Text := (List.replicate k ['+', '/']).flatten

lemma closings_succ (k : Nat) : closings (k + 1) = '+' :: '/' :: closings k := rfl

lemma modeBehind_eq_foldl_read (m : Mode) (lines : List Text) :
    modeBehind m lines = lines.foldl (fun m line => ((State.start m).read line).2) m := by
  have hstep : (fun m line => (skip m line).mode) =
      fun m line => ((State.start m).read line).2 := by
    funext m line
    rw [← reached_skip_eq_read]
    rfl
  rw [modeBehind, hstep]

/-- Each closing mark takes one pair off. -/
lemma read_closings_of_le {extra k : Nat} (h : k ≤ extra) :
    State.read (.nested extra none) (closings k) = (.code [], .nested (extra - k)) := by
  induction k generalizing extra with
  | zero => rfl
  | succ k ih =>
    obtain ⟨extra, rfl⟩ := Nat.exists_eq_add_of_le' (Nat.zero_lt_of_lt h)
    have hpair : State.read (.nested (extra + 1) none) (closings (k + 1)) =
        State.read (.nested extra none) (closings k) := by
      simp [closings_succ, State.read, State.step]
    rw [hpair, ih (by omega), Nat.add_sub_add_right]

lemma read_closings_succ (extra : Nat) :
    State.read (.nested extra none) (closings (extra + 1)) = (.code [], .outside) := by
  induction extra with
  | zero => rfl
  | succ extra ih =>
    rw [← ih, closings_succ (extra + 1)]
    simp [State.read, State.step]

/-- **Comments are read by an automaton.**  Behind any lines, passing over the comments of a line
leads to the same place and the same mode as reading the line character by character, a stray
closing mark included; so the mode behind the lines is the automaton's as well.  In particular the
depth of nested comments is exact: if it is `extra + 1`, the fault of a source that ends there asks
for as many closing marks, a line of fewer marks lowers the depth by their number, and a line of
just as many leads out of the comment with nothing left. -/
theorem skip_refines_automaton (m : Mode) (lines : List Text) :
    (∀ line, (skip (modeBehind m lines) line).reached =
      (State.start (modeBehind m lines)).read line) ∧
    modeBehind m lines = lines.foldl (fun m line => ((State.start m).read line).2) m ∧
    ∀ extra, modeBehind m lines = .nested extra →
      (modeBehind m lines).unclosed?.bind Fault.hint =
        some (Numeral.decimal (extra + 1) ++ " +/ still missing".toList) ∧
      (∀ k, k < extra + 1 → (skip (modeBehind m lines) (closings k)).reached =
        (.code [], .nested (extra - k))) ∧
      (skip (modeBehind m lines) (closings (extra + 1))).reached = (.code [], .outside) := by
  refine ⟨fun line => reached_skip_eq_read _ line, modeBehind_eq_foldl_read m lines, ?_⟩
  intro extra hmode
  rw [hmode]
  refine ⟨rfl, fun k hk => ?_, ?_⟩
  · rw [reached_skip_eq_read]
    exact read_closings_of_le (Nat.le_of_lt_succ hk)
  · rw [reached_skip_eq_read]
    exact read_closings_succ extra

/-- Two lines open three pairs and close one of them. -/
theorem skip_refines_automaton_pairs :
    modeBehind .outside ["/* a */ /+ b /+/".toList, "/+ c +/+".toList] = .nested 1 ∧
    (skip (.nested 1) "+/".toList).reached = (.code [], .nested 0) ∧
    (skip (.nested 1) "+/+/".toList).reached = (.code [], .outside) := by
  have hmode : modeBehind .outside ["/* a */ /+ b /+/".toList, "/+ c +/+".toList] = .nested 1 := by
    decide +kernel
  have hdepth := (skip_refines_automaton .outside ["/* a */ /+ b /+/".toList, "/+ c +/+".toList]).2.2
    1 hmode
  rw [hmode] at hdepth
  exact ⟨hmode, hdepth.2.1 1 (by decide), hdepth.2.2⟩

end ScriptLexer.Comment
