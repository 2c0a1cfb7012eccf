import ScriptLexer.Cursor.Next
import ScriptLexer.Source

/-!
# Sessions

A session reads tokens one by one.  With a stream it reads line after line and ends with a token for
the end of the source; without one it scans the lines that are handed to it.  It closes its stream
when it is closed, if the stream is its own.

Nothing is lost when a call fails: the session goes on from the state it is left in.
-/

namespace ScriptLexer

/-- Why a call to a session fails. -/
inductive Failure where
  /-- The source is faulty. -/
  | lexical (e : LexicalError)
  /-- A stream is needed and there is none. -/
  | noStream
  /-- Lines cannot be handed over while there is a stream. -/
  | hasStream
  /-- The stream is closed. -/
  | closedStream (origin : Stream.Origin)
  /-- The file cannot be opened. -/
  | unopened (path : Text) (fault : OpenFault)
deriving DecidableEq, Repr

/-- The wording of a failure. -/
def Failure.message : Failure → Text
  | .lexical e => e.diagnostic.render
  | .noStream => "next_token() requires a stream; use next_from_line()"
  | .hasStream => "set_line() is only supported in single-line mode"
  | .closedStream origin => origin.closedMessage
  | .unopened path fault => fault.message path

/-- The stream of a session. -/
structure Input where
  /-- The stream as it is now. -/
  stream : Stream
  /-- Whether closing the session closes the stream. -/
  owned : Bool
  /-- Whether the source was declared to begin with the mark of UTF-8. -/
  marked : Bool
deriving DecidableEq, Repr

/-- A tokenizer at work. -/
structure Session where
  /-- The name of the source. -/
  file : Text
  /-- The options in effect. -/
  options : Options
  /-- The spellings in use. -/
  table : Table
  /-- The stream, if lines come from one. -/
  input : Option Input
  /-- The place reached. -/
  cursor : Cursor := {}
  /-- Whether the session has been closed. -/
  closed : Bool := false
  /-- What has happened, the newest first. -/
  log : List Event := []

/-- The name of a source that was given none. -/
def namelessSource : Text := "<input>"

namespace Session

/-- What a session is made from. -/
structure Setup where
  /-- The name of the source; an empty one is replaced. -/
  file : Text := []
  /-- The stream to read, if there is one. -/
  stream : Option Stream := none
  /-- The mark that the stream is declared to begin with. -/
  mark : Mark.Declared := .mark .none
  /-- The options. -/
  options : Options := {}
  /-- The spellings, those of the language if none are given. -/
  table : Option Table := none
  /-- Whether the session is to close the stream. -/
  owned : Bool := false

/-- The name under which the source is known. -/
def Setup.sourceName (setup : Setup) : Text :=
  if setup.file = [] then namelessSource else setup.file

/-- A new session.  The declared mark is looked at only if there is a stream to read. -/
def create (setup : Setup) : Except LexicalError Session :=
  let session (input : Option Input) : Session :=
    { file := setup.sourceName
      options := setup.options
      table := setup.table.getD Table.standard
      input := input
      log := if setup.table.isNone then [.tableBuilt] else [] }
  match setup.stream with
  | none => .ok (session none)
  | some stream =>
    match setup.mark.refusal? with
    | some refusal => .error ⟨.mark refusal, some ⟨setup.sourceName, 1⟩⟩
    | none =>
      .ok (session (some { stream, owned := setup.owned, marked := setup.mark = .mark .utf8 }))

/-- What scanning depends on in this session. -/
def rules (s : Session) : Rules where
  file := s.file
  streaming := s.input.isSome
  options := s.options
  table := s.table

/-- The session after some more events, given oldest first. -/
def record (s : Session) (events : List Event) : Session :=
  { s with log := events.reverse ++ s.log }

/-- Hands a line over to a session without a stream; what was left of the last one is dropped. -/
def setLine (s : Session) (line : Text) : Except Failure Unit × Session :=
  if s.input.isSome then (.error .hasStream, s)
  else (.ok (), { s with cursor := s.cursor.start line })

/-- The next token of the line at hand, none at its end.  No line is read. -/
def nextFromLine (s : Session) : Except Failure (Option Token) × Session :=
  let scan := s.cursor.scan s.rules
  let after := { s with cursor := scan.cursor }.record scan.events
  match scan.found with
  | .ok found => (.ok found, after)
  | .error fault => (.error (.lexical ⟨fault, s.cursor.location s.rules⟩), after)

/-- The next token of an open stream. -/
def nextFromStream (s : Session) (input : Input) : Except Failure Token × Session :=
  let pull := s.cursor.next s.rules input.marked input.stream.chunks
  let stream := { input.stream with chunks := pull.chunks }
  let after := { s with cursor := pull.cursor, input := some { input with stream } }
  (pull.found.mapError .lexical, after.record pull.events)

/-- The next token of the source.  From a closed stream only what is left of the line can come. -/
def next (s : Session) : Except Failure Token × Session :=
  match s.input with
  | none => (.error .noStream, s)
  | some input =>
    if input.stream.isClosed then
      match s.nextFromLine with
      | (.ok (some t), after) => (.ok t, after)
      | (.ok none, after) => (.error (.closedStream input.stream.origin), after)
      | (.error failure, after) => (.error failure, after)
    else s.nextFromStream input

/-- Closes the session, and its stream if that is its own.  A second time this does nothing. -/
def close (s : Session) : Session :=
  if s.closed then s
  else
    match s.input with
    | some input =>
      if input.owned then
        { s with closed := true, input := some { input with stream := input.stream.close } }.record
          [.closing s.file]
      else { s with closed := true }
    | none => { s with closed := true }

/-- What becomes of a session that nobody holds any more: it is closed if a stream is its own. -/
def drop (s : Session) : Session :=
  match s.input with
  | some input => if input.owned then s.close else s
  | none => s

/-- How much text is left to read. -/
def pending (s : Session) : Nat :=
  s.cursor.pending (s.input.elim [] (·.stream.chunks))

@[simp] theorem pending_record (s : Session) (events : List Event) :
    (s.record events).pending = s.pending := rfl

theorem pending_of_nextFromLine {s after : Session} {t : Token}
    (h : s.nextFromLine = (.ok (some t), after)) : after.pending < s.pending := by
  unfold nextFromLine at h
  simp only at h
  split at h
  · rename_i found hs
    cases h
    have := Cursor.length_of_scan hs
    simp only [pending_record]
    simp only [pending, Cursor.pending]
    omega
  · cases h

/-- A token that does not end the source takes something off it. -/
theorem pending_of_next {s after : Session} {t : Token} (h : s.next = (.ok t, after))
    (ht : t.kind ≠ .endOfFile) : after.pending < s.pending := by
  unfold next at h
  split at h
  · cases h
  · rename_i input hinput
    split at h
    · split at h
      · rename_i hline
        cases h
        exact pending_of_nextFromLine hline
      · cases h
      · cases h
    · unfold nextFromStream at h
      simp only [Prod.mk.injEq] at h
      obtain ⟨hfound, rfl⟩ := h
      have found : (s.cursor.next s.rules input.marked input.stream.chunks).found = .ok t := by
        cases hp : (s.cursor.next s.rules input.marked input.stream.chunks).found with
        | error e =>
          rw [hp] at hfound
          cases hfound
        | ok t' =>
          rw [hp] at hfound
          cases hfound
          rfl
      have := Cursor.pending_of_next found ht
      simp only [pending_record]
      simpa [pending, hinput] using this

/-- Reads tokens up to the one that ends the source. -/
def collect (s : Session) : Except Failure (List Token) × Session :=
  match _ : s.next with
  | (.error failure, after) => (.error failure, after)
  | (.ok t, after) =>
    if _ : t.kind = .endOfFile then (.ok [t], after)
    else
      match collect after with
      | (.ok ts, last) => (.ok (t :: ts), last)
      | (.error failure, last) => (.error failure, last)
termination_by s.pending
decreasing_by
  rename_i h ht
  exact pending_of_next h ht

/-- Reads all remaining tokens, the one that ends the source included. -/
def tokenize (s : Session) : Except Failure (List Token) × Session :=
  match s.collect with
  | (.ok ts, after) => (.ok ts, after.record [.tokenized s.file ts.length])
  | (.error failure, after) => (.error failure, after)

/-- Reads the remaining tokens of the line at hand. -/
def drainLine (s : Session) : Except Failure (List Token) × Session :=
  match _ : s.nextFromLine with
  | (.error failure, after) => (.error failure, after)
  | (.ok none, after) => (.ok [], after)
  | (.ok (some t), after) =>
    match drainLine after with
    | (.ok ts, last) => (.ok (t :: ts), last)
    | (.error failure, last) => (.error failure, last)
termination_by s.pending
decreasing_by
  rename_i h
  exact pending_of_nextFromLine h

end Session

end ScriptLexer
