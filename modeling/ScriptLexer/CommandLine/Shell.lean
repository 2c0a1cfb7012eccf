import ScriptLexer.CommandLine.Problem
import ScriptLexer.Text.Ansi

/-!
# The shell

The program hands its messages to a library of the shell that it runs in, one at a time.  Only what is
documented of such a library is known (`Shell.Documented`): a message that is written has a line feed
behind it, and control sequences in it may be left out, as they are where nobody looks at a terminal.
Any message may fail to be written: its stream may be closed, or may not be able to hold a character.
What then has got into the stream is not known.

Both streams are there.  What the system does with a stream once the program has ended is not
represented, and neither is a signal that stops the program between two messages.
-/

namespace ScriptLexer.CommandLine

/-- What a message belongs to.  The dump goes to one stream, the log and the report to another. -/
inductive Channel where
  /-- The dump of the tokens. -/
  | dump
  /-- The log of what happens. -/
  | log
  /-- The report about a problem. -/
  | report
deriving DecidableEq, Repr

/-- What becomes of messages that are to be written. -/
structure Writing where
  /-- What gets into the stream. -/
  text : Text := []
  /-- What stands in the way of the rest. -/
  fault : Option WriteFault := none
deriving DecidableEq, Repr

/-- What is left to the shell. -/
structure Shell where
  /-- Writes a message that belongs to a channel, behind a number of earlier ones. -/
  write (channel : Channel) (earlier : Nat) (message : Text) : Writing
  /-- All that is told about arguments which the program itself refuses. -/
  refusal (message : Text) : Text

namespace Shell

/-- What is documented of the writing. -/
structure Documented (shell : Shell) : Prop where
  /-- A message that is written stands in the stream with a line feed behind it, some of its control
  sequences left out. -/
  written : ∀ {channel : Channel} {earlier : Nat} {message : Text},
    (shell.write channel earlier message).fault = none →
      ∃ shown, Ansi.Leaves message shown ∧
        (shell.write channel earlier message).text = shown ++ ['\n']

/-- Writes messages one after the other, up to the first that cannot be written. -/
def writeAll (shell : Shell) (channel : Channel) : (earlier : Nat) → List Text → Writing
  | _, [] => {}
  | earlier, message :: messages =>
    let first := shell.write channel earlier message
    match first.fault with
    | some _ => first
    | none =>
      let later := writeAll shell channel (earlier + 1) messages
      { later with text := first.text ++ later.text }

/-- Offers messages one after the other.  One that cannot be written is passed over. -/
def offerAll (shell : Shell) (channel : Channel) : (earlier : Nat) → List Text → Text
  | _, [] => []
  | earlier, message :: messages =>
    (shell.write channel earlier message).text ++ offerAll shell channel (earlier + 1) messages

end Shell

end ScriptLexer.CommandLine
