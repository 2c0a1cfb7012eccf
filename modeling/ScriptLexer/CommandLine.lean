import ScriptLexer.CommandLine.Arguments
import ScriptLexer.CommandLine.Shell
import ScriptLexer.Dump
import ScriptLexer.Tokenize

/-!
# The command line

The program dumps the tokens of a file or of a line given as an argument.  The first line is dumped when
all tokens have been read, and the lines are written one after the other.  A line that cannot be written
ends the run: it is a problem like those of the reading, and what has been written before stays.
-/

namespace ScriptLexer.CommandLine

/-- How a run ends. -/
inductive Ending where
  /-- It ends with a code. -/
  | exit (code : ExitCode)
  /-- A problem was to be told, and the telling failed in its turn.  What the system makes of that is not
  represented. -/
  | untold (fault : WriteFault)
deriving DecidableEq, Repr

/-- How a run ends that has a problem to tell, by what stands in the way of the telling. -/
def Ending.ofTelling (code : ExitCode) : Option WriteFault → Ending
  | none => .exit code
  | some fault => .untold fault

/-- What a run leaves. -/
structure Output where
  /-- How it ended. -/
  ending : Ending
  /-- What it wrote as its result. -/
  stdout : Text := []
  /-- What it wrote about its work. -/
  stderr : Text := []
deriving DecidableEq, Repr

/-- The options of a run: those of the environment, but for what the arguments choose. -/
def chosenOptions (environment : Options.Environment) (a : Arguments) : Options :=
  (Options.ofEnvironment environment).choose a.caseless a.skipDirectives

/-- Reads what is to be read. -/
def tokenize (files : FileSystem) (options : Options) : Job → Run (List Token)
  | .line t => tokenizeLine t options
  | .file path => (tokenizeFile files path options).toRun

/-- Tells a problem and ends with its code. -/
def report (shell : Shell) (verbose : Bool) (p : Problem) : Output :=
  let told := shell.writeAll .report 0 (p.messages verbose)
  { ending := .ofTelling p.exitCode told.fault, stderr := told.text }

/-- Writes tokens, each as a line of the dump. -/
def dump (shell : Shell) (a : Arguments) (ts : List Token) : Writing :=
  shell.writeAll .dump 0 (ts.map (Dump.line a.markLines))

/-- The log as it is written, if it is asked for. -/
def writtenLog (shell : Shell) (a : Arguments) (options : Options) (log : List Event) : Text :=
  if a.verbose then shell.offerAll .log 0 ((.optionsChosen options :: log).map Event.render) else []

/-- What is dumped of the tokens, and the problem in the way of the rest. -/
def dumped (shell : Shell) (a : Arguments) : Except Failure (List Token) → Text × Option Problem
  | .error failure => ([], some (.ofFailure failure))
  | .ok ts => ((dump shell a ts).text, (dump shell a ts).fault.map .ofWriteFault)

/-- The output of a run: the log if it is asked for, then the dump, then the problem if there is one. -/
def output (shell : Shell) (a : Arguments) (options : Options) (found : Run (List Token)) : Output :=
  let log := writtenLog shell a options found.log
  match dumped shell a found.result with
  | (stdout, none) => { ending := .exit .success, stdout, stderr := log }
  | (stdout, some problem) =>
    let told := report shell a.verbose problem
    { told with stdout, stderr := log ++ told.stderr }

/-- Runs the program. -/
def run (shell : Shell) (files : FileSystem) (environment : Options.Environment) : Parsed → Output
  | .refused told => { ending := .exit .invalidArguments, stderr := told }
  | .answered text => { ending := .exit .success, stdout := text }
  | .accepted a =>
    match a.job with
    | .error refusal =>
      { ending := .exit .invalidArguments, stderr := shell.refusal refusal.message }
    | .ok job =>
      let options := chosenOptions environment a
      output shell a options (tokenize files options job)

end ScriptLexer.CommandLine
