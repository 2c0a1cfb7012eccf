import ScriptLexer.CommandLine

/-!
# A shell without a terminal

The outer layer of the program: both streams are pipes or files, every message can be written, and all
control sequences are left out of the messages.  The log is written as it stands.
-/

namespace ScriptLexer.CommandLine

/-- A message as it is written when the stream is no terminal, with its line feed. -/
def echo (t : Text) : Text := Ansi.strip t ++ ['\n']

/-- The reminder of the usage. -/
def usage : Text :=
  "Usage: mtok [OPTIONS] [INPUT_FILE]\nTry 'mtok --help' for help.\n\n"

/-- A shell whose streams are no terminals and can be written. -/
def Shell.piped : Shell where
  write
    | .log, _, message => { text := message ++ ['\n'] }
    | .dump, _, message | .report, _, message => { text := echo message }
  refusal message := usage ++ echo ("Error: " ++ message)

/-- The number with which a run ends. -/
def Ending.status : Ending → Nat
  | .exit code => code.value
  | .untold _ => 1

end ScriptLexer.CommandLine
