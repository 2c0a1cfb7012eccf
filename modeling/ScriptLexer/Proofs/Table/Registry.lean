import Mathlib.Data.List.Basic
import Mathlib.Tactic.Lemma
import ScriptLexer.Table.Registry

/-!
# One table for the whole program

Whatever a program asks of its registry and in whatever order, at most one table is built.  The first
request is answered with its number, and so is every later request to hand it out; every later request
to build it is refused.
-/

namespace ScriptLexer.Table.Registry

/-- The registry once the table is there. -/
def ready : Registry := { current := some 0, built := 1 }

/-- The registry behind some requests. -/
def after (r : Registry) (qs : List Request) : Registry := qs.foldl (fun r q => (r.answer q).2) r

/-- How a request is answered behind a number of others. -/
def expected (earlier : Nat) (q : Request) : Except TableError Nat :=
  if q = .build ∧ earlier ≠ 0 then .error .alreadyBuilt else .ok 0

/-- The first request builds the table, whichever it is. -/
lemma answer_start (q : Request) : answer {} q = (expected 0 q, ready) := by
  cases q <;> rfl

/-- Every later request leaves the table as it is. -/
lemma answer_ready (q : Request) {earlier : Nat} (h : earlier ≠ 0) :
    ready.answer q = (expected earlier q, ready) := by
  cases q with
  | build => rw [expected, if_pos ⟨rfl, h⟩]; rfl
  | get => rw [expected, if_neg (by simp)]; rfl

lemma after_ready (qs : List Request) : ready.after qs = ready := by
  induction qs with
  | nil => rfl
  | cons q qs ih =>
    rw [after, List.foldl_cons, answer_ready q Nat.one_ne_zero]
    exact ih

lemma answers_ready (qs : List Request) {earlier : Nat} (h : earlier ≠ 0) :
    ready.answers qs = qs.mapIdx fun i q => expected (i + earlier) q := by
  induction qs generalizing earlier with
  | nil => rfl
  | cons q qs ih =>
    rw [answers, answer_ready q h, ih (Nat.succ_ne_zero earlier), List.mapIdx_cons, Nat.zero_add]
    simp only [Nat.add_right_comm, Nat.add_assoc]

/-- **One table.**  From the start of a program let any requests be answered.  One table has been built
behind them, none if there were no requests.  Every request is answered with the number of that table,
but for a request to build it that is not the first: this is refused, since the table is there. -/
theorem answers_eq_mapIdx (qs : List Request) :
    (after {} qs).built = min 1 qs.length ∧
      answers {} qs =
        qs.mapIdx fun i q => if q = .build ∧ i ≠ 0 then .error .alreadyBuilt else .ok 0 := by
  cases qs with
  | nil => exact ⟨rfl, rfl⟩
  | cons q qs =>
    constructor
    · rw [after, List.foldl_cons, answer_start, List.length_cons]
      change (ready.after qs).built = _
      rw [after_ready]
      exact (Nat.min_eq_left (Nat.le_add_left 1 qs.length)).symm
    · rw [answers, answer_start, answers_ready qs Nat.one_ne_zero, List.mapIdx_cons]
      rfl

/-- Asked for, then built, then asked for again. -/
example : answers {} [.get, .build, .get] = [.ok 0, .error .alreadyBuilt, .ok 0] := by decide

end ScriptLexer.Table.Registry
