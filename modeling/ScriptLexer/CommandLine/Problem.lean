import ScriptLexer.Session

/-!
# Problems and exit codes

A run that fails tells so in one message and in its exit code: one for a faulty script, two for
arguments and files that cannot be used, three for anything that should not have happened.
-/

namespace ScriptLexer.CommandLine

/-- The codes with which the program ends. -/
inductive ExitCode where
  | success | lexicalError | invalidArguments | internalError
deriving DecidableEq, Repr

namespace ExitCode

/-- The code as a number. -/
def value : ExitCode → Nat
  | .success => 0
  | .lexicalError => 1
  | .invalidArguments => 2
  | .internalError => 3

/-- The name of the code. -/
def name : ExitCode → Text
  | .success => "SUCCESS"
  | .lexicalError => "LEX_ERROR"
  | .invalidArguments => "INVALID_ARGS"
  | .internalError => "INTERNAL_ERROR"

end ExitCode

/-- Why a message could not be written. -/
inductive WriteFault where
  /-- The file behind the stream is missing or may not be written. -/
  | noAccess (message : Text)
  /-- Something else is in the way: nobody reads the stream any more, or it cannot hold a character. -/
  | other (message : Text)
deriving DecidableEq, Repr

/-- What made a run fail. -/
inductive Problem where
  /-- The script is faulty. -/
  | lexical (d : Diagnostic)
  /-- An argument, or a file, cannot be used. -/
  | unusable (message : Text)
  /-- Something else went wrong. -/
  | internal (message : Text)
deriving DecidableEq, Repr

namespace Problem

/-- The problem that a failure to read is to the user of the program. -/
def ofFailure (failure : Failure) : Problem :=
  match failure with
  | .lexical e => .lexical e.diagnostic
  | .unopened _ .missing | .unopened _ (.notPermitted _ _) => .unusable failure.message
  | _ => .internal failure.message

/-- The problem that a failure to write is to the user of the program. -/
def ofWriteFault : WriteFault → Problem
  | .noAccess message => .unusable message
  | .other message => .internal message

/-- The exit code of a problem. -/
def exitCode : Problem → ExitCode
  | .lexical _ => .lexicalError
  | .unusable _ => .invalidArguments
  | .internal _ => .internalError

/-- What stands for the trace of an internal error. -/
def trace : Text := "<traceback>"

/-- The message about a problem. -/
def text : Problem → Text
  | .lexical d => d.render
  | .unusable message => "Error: " ++ message
  | .internal message => "Internal error: " ++ message

/-- Whether the trace of a problem is shown. -/
def showsTrace (verbose : Bool) : Problem → Bool
  | .internal _ => verbose
  | _ => false

/-- All that is told about a problem, message by message. -/
def messages (verbose : Bool) (p : Problem) : List Text :=
  if p.showsTrace verbose then [p.text, trace] else [p.text]

end Problem

end ScriptLexer.CommandLine
