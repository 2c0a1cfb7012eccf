import ScriptLexer.Table

/-!
# The table of a running program

A program builds the language's table once and shares it.  Building it a second time is refused;
asking for it builds it when it is not there yet.  Requests come one after the other.
-/

namespace ScriptLexer.Table

/-- Which table a running program has built, if any.  Tables are numbered as they are built. -/
structure Registry where
  /-- The number of the table in use. -/
  current : Option Nat := none
  /-- How many tables have been built. -/
  built : Nat := 0
deriving DecidableEq, Repr

namespace Registry

/-- What a program asks of its registry. -/
inductive Request where
  /-- Build the table now. -/
  | build
  /-- Hand out the table, building it first if need be. -/
  | get
deriving DecidableEq, Repr

/-- Builds the table, unless there is one. -/
def build (r : Registry) : Except TableError Nat × Registry :=
  match r.current with
  | some _ => (.error .alreadyBuilt, r)
  | none => (.ok r.built, { current := some r.built, built := r.built + 1 })

/-- Answers a request with the number of a table. -/
def answer (r : Registry) : Request → Except TableError Nat × Registry
  | .build => r.build
  | .get =>
    match r.current with
    | some n => (.ok n, r)
    | none => r.build

/-- Answers requests one after the other. -/
def answers (r : Registry) : List Request → List (Except TableError Nat)
  | [] => []
  | q :: qs => (r.answer q).1 :: answers (r.answer q).2 qs

end Registry

end ScriptLexer.Table
