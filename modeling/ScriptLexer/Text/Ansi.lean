import ScriptLexer.Text.Basic

/-!
# Terminal control sequences

A control sequence is an escape character and an opening bracket, parameter characters from `0` to `?`,
intermediate characters from the space to `/`, and one final character from `@` to `~`.  Where output is
not sent to a terminal, such sequences may be left out of it (`Leaves`).  `strip` leaves all of them out,
from left to right; an escape that begins no complete sequence stays.
-/

namespace ScriptLexer.Ansi

/-- Whether a character lies between two others, both included. -/
def inRange (first last c : Char) : Bool := first ≤ c && c ≤ last

/-- Whether a text is a control sequence. -/
def IsSequence (s : Text) : Prop :=
  ∃ parameters intermediates final,
    s = '\x1b' :: '[' :: (parameters ++ intermediates ++ [final]) ∧
      (∀ c ∈ parameters, inRange '0' '?' c = true) ∧
      (∀ c ∈ intermediates, inRange ' ' '/' c = true) ∧ inRange '@' '~' final = true

/-- What a text leaves when some of its control sequences are left out. -/
inductive Leaves : (t shown : Text) → Prop where
  | nil : Leaves [] []
  | keep (c : Char) {t shown : Text} (h : Leaves t shown) : Leaves (c :: t) (c :: shown)
  | drop {s t shown : Text} (hs : IsSequence s) (h : Leaves t shown) : Leaves (s ++ t) shown

/-- What follows a control sequence, given the text after its opening bracket. -/
def afterSequence? (t : Text) : Option Text :=
  match (t.dropWhile (inRange '0' '?')).dropWhile (inRange ' ' '/') with
  | c :: r => if inRange '@' '~' c then some r else none
  | [] => none

theorem length_of_afterSequence? {t r : Text} (h : afterSequence? t = some r) :
    r.length < t.length := by
  have outer := (List.dropWhile_suffix (l := t.dropWhile (inRange '0' '?'))
    (inRange ' ' '/')).length_le
  have inner := (List.dropWhile_suffix (l := t) (inRange '0' '?')).length_le
  unfold afterSequence? at h
  split at h
  · rename_i c r' hd
    rw [hd] at outer
    split at h
    · cases h
      simp only [List.length_cons] at outer
      omega
    · cases h
  · cases h

/-- The text without its control sequences. -/
def strip : Text → Text
  | [] => []
  | '\x1b' :: '[' :: r =>
    match _ : afterSequence? r with
    | some rest => strip rest
    | none => '\x1b' :: strip ('[' :: r)
  | c :: r => c :: strip r
termination_by t => t.length
decreasing_by
  · rename_i h
    have := length_of_afterSequence? h
    simp only [List.length_cons]
    omega
  · simp
  · simp

end ScriptLexer.Ansi
