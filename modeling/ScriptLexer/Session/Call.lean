import ScriptLexer.Session

/-!
# Calls to a session

A client drives a session by calls in any order, and goes on after a call that failed.  It may hold
several iterators over the same session.  An iterator gives tokens until it has given the one that
ends the source, or failed; from then on it gives nothing, whatever the session could still give.
-/

namespace ScriptLexer.Session

/-- What a client may ask for. -/
inductive Call where
  /-- The next token of the source. -/
  | next
  /-- The next token of the line at hand. -/
  | nextFromLine
  /-- Hand over a line. -/
  | setLine (line : Text)
  /-- All remaining tokens. -/
  | tokenize
  /-- A new iterator. -/
  | iterate
  /-- One step of an iterator, numbered in the order of creation. -/
  | advance (iterator : Nat)
  /-- Begin a guarded use of the session. -/
  | enter
  /-- End a guarded use, which closes the session. -/
  | exit
  /-- Close the session. -/
  | close
  /-- Give the session up. -/
  | drop
deriving DecidableEq, Repr

/-- What a call gives. -/
inductive Reply where
  /-- A token. -/
  | token (t : Token)
  /-- Nothing. -/
  | nothing
  /-- Several tokens. -/
  | tokens (ts : List Token)
  /-- The session itself. -/
  | self
  /-- The iterator has come to its end. -/
  | exhausted
deriving DecidableEq, Repr

/-- A session with the iterators taken over it. -/
structure Client where
  /-- The session. -/
  session : Session
  /-- For each iterator whether it has come to its end. -/
  iterators : List Bool := []

namespace Client

/-- One step of an iterator. -/
def advance (c : Client) (iterator : Nat) : Except Failure Reply × Client :=
  match c.iterators[iterator]? with
  | some false =>
    match c.session.next with
    | (.ok t, session) =>
      (.ok (.token t),
        { session, iterators := c.iterators.set iterator (decide (t.kind = .endOfFile)) })
    | (.error failure, session) =>
      (.error failure, { session, iterators := c.iterators.set iterator true })
  | _ => (.ok .exhausted, c)

/-- Answers a call. -/
def answer (c : Client) : Call → Except Failure Reply × Client
  | .next =>
    match c.session.next with
    | (result, session) => (result.map .token, { c with session })
  | .nextFromLine =>
    match c.session.nextFromLine with
    | (result, session) => (result.map fun t => t.elim .nothing .token, { c with session })
  | .setLine line =>
    match c.session.setLine line with
    | (result, session) => (result.map fun _ => .nothing, { c with session })
  | .tokenize =>
    match c.session.tokenize with
    | (result, session) => (result.map .tokens, { c with session })
  | .iterate => (.ok .nothing, { c with iterators := c.iterators ++ [false] })
  | .advance iterator => c.advance iterator
  | .enter => (.ok .self, c)
  | .exit => (.ok .nothing, { c with session := c.session.close })
  | .close => (.ok .nothing, { c with session := c.session.close })
  | .drop => (.ok .nothing, { c with session := c.session.drop })

/-- Answers calls one after the other, each with the state that it leaves. -/
def answers (c : Client) : List Call → List (Except Failure Reply × Client)
  | [] => []
  | call :: calls => c.answer call :: answers (c.answer call).2 calls

/-- The state after some calls. -/
def run (c : Client) (calls : List Call) : Client :=
  calls.foldl (fun c call => (c.answer call).2) c

end Client

end ScriptLexer.Session
