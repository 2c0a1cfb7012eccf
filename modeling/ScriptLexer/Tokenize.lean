import ScriptLexer.Session

/-!
# Tokenizing whole sources

The usual ways to use a session from its making to its end: on a single line, on a stream that
stays open, and on a file that is closed whatever happens.
-/

namespace ScriptLexer

/-- What a run leaves: its result and what happened, the oldest event first. -/
structure Run (α : Type) where
  /-- What the run gives. -/
  result : Except Failure α
  /-- What happened. -/
  log : List Event

/-- The tokens of a single line.  Errors have no place, and no token tells of the end. -/
def tokenizeLine (line : Text) (options : Options) : Run (List Token) :=
  match Session.create { options } with
  | .error e => { result := .error (.lexical e), log := [] }
  | .ok s =>
    let (result, after) := (s.setLine line).2.drainLine
    { result, log := after.log.reverse }

/-- The tokens of the source that a session is made for.  Its stream stays as the run leaves it. -/
def tokenizeStream (setup : Session.Setup) : Run (List Token) :=
  match Session.create setup with
  | .error e => { result := .error (.lexical e), log := [] }
  | .ok s =>
    let (result, after) := s.tokenize
    { result, log := after.log.reverse }

/-- A run on a file, and the file as the run leaves it; there is none if it was not opened. -/
structure FileRun (α : Type) extends Run α where
  /-- The stream of the file. -/
  stream : Option Stream

/-- Opens a file and makes a session that owns it.  A file whose mark is refused is closed. -/
def Session.openFile (files : FileSystem) (path : Text) (options : Options) : FileRun Session :=
  match OpenedFile.open files path with
  | .error fault => { result := .error (.unopened path fault), log := [], stream := none }
  | .ok opened =>
    let stream := Stream.ofFile opened.rest
    let setup : Setup :=
      { file := path, stream := some stream, mark := .mark opened.mark, options, owned := true }
    match create setup with
    | .error e =>
      { result := .error (.lexical e), log := [.opened path opened.mark],
        stream := some stream.close }
    | .ok s =>
      { result := .ok { s with log := s.log ++ [.opened path opened.mark] },
        log := [.opened path opened.mark], stream := some stream }

/-- The tokens of a file, which is closed afterwards whether or not they could be read. -/
def tokenizeFile (files : FileSystem) (path : Text) (options : Options) : FileRun (List Token) :=
  let opening := Session.openFile files path options
  match opening.result with
  | .error failure => { result := .error failure, log := opening.log, stream := opening.stream }
  | .ok s =>
    let (result, after) := s.tokenize
    let last := after.close
    { result, log := last.log.reverse, stream := last.input.map (·.stream) }

end ScriptLexer
