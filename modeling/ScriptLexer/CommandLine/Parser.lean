import ScriptLexer.CommandLine.Piped
import ScriptLexer.Text.Quoted

/-!
# The parser of the arguments

The outer layer of the program: what a run is given when the arguments come from a command line.

Arguments are options and file names in any order; after `--` everything is a file name.  A long
option may carry its value behind an equals sign.  Short options may be joined, and what follows one
that takes a value is that value.  An option that takes a value takes the next argument whatever it
looks like.  Of an option that is repeated the last one counts.

They are checked in a fixed order: their form first, then questions about the program, then the file,
then arguments behind it.  The file is looked for under its path as given, and handed over under the
normal form of that path.
-/

namespace ScriptLexer.CommandLine

/-- The version of the program. -/
def version : Text := "0.1.0"

/-- What the program can be asked for instead of its work. -/
inductive Inquiry where
  | version | help
deriving DecidableEq, Repr

namespace Inquiry

/-- The lines of the help. -/
def helpLines : List Text :=
  [ "Usage: mtok [OPTIONS] [INPUT_FILE]",
    "",
    "  Print the tokens of a Monster script.",
    "",
    "  INPUT_FILE is the script to tokenize. Use -e to tokenize a single line given",
    "  on the command line instead.",
    "",
    "  Examples:",
    "      mtok script.mn               # One token per line",
    "      mtok -e 'a !=i= b'           # Tokenize a single line",
    "      mtok --no-ci-ops script.mn   # Without =i= operators",
    "",
    "Options:",
    "  -e, --expr TEXT                 Tokenize this single line instead of a file",
    "  --ci-ops / --no-ci-ops          Recognize the =i= and !=i= operator family",
    "                                  (default: on, or MONSTER_CI_STRING_OPS)",
    "  --skip-directives / --keep-directives",
    "                                  Ignore lines starting with '#' (default: on,",
    "                                  or MONSTER_SKIP_HASHES)",
    "  --mark-lines                    Prefix tokens that start a line with '*'",
    "  -v, --verbose                   Verbose output",
    "  --version                       Show the version and exit.",
    "  --help                          Show this message and exit." ]

/-- The answer to a question about the program. -/
def answer : Inquiry → Text
  | .version => "mtok, version " ++ CommandLine.version ++ "\n"
  | .help => helpLines.flatMap (· ++ ['\n'])

end Inquiry

/-- The options without a value. -/
inductive Flag where
  /-- Switches the caseless comparisons. -/
  | caseless (on : Bool)
  /-- Switches the skipping of directives. -/
  | skipDirectives (on : Bool)
  /-- Asks for marks on tokens that start a line. -/
  | markLines
  /-- Asks for the log. -/
  | verbose
  /-- Asks about the program. -/
  | inquire (about : Inquiry)
deriving DecidableEq, Repr

/-- What an option does. -/
inductive Action where
  /-- It is a flag. -/
  | flag (f : Flag)
  /-- It takes a line of script as its value. -/
  | expression
deriving DecidableEq, Repr

/-- The options by their long names. -/
def longOptions : List (Text × Action) :=
  [("--expr", .expression), ("--ci-ops", .flag (.caseless true)),
    ("--no-ci-ops", .flag (.caseless false)), ("--skip-directives", .flag (.skipDirectives true)),
    ("--keep-directives", .flag (.skipDirectives false)), ("--mark-lines", .flag .markLines),
    ("--verbose", .flag .verbose), ("--version", .flag (.inquire .version)),
    ("--help", .flag (.inquire .help))]

/-- The options by their short names. -/
def shortOptions : List (Char × Action) := [('e', .expression), ('v', .flag .verbose)]

/-- Why the parser refuses arguments. -/
inductive UsageError where
  /-- There is no such option. -/
  | noSuchOption (name : Text)
  /-- An option stands without its value. -/
  | missingValue (name : Text)
  /-- A flag was given a value. -/
  | unexpectedValue (name : Text)
  /-- The file does not exist. -/
  | noSuchFile (path : Text)
  /-- The file is a directory. -/
  | fileIsDirectory (path : Text)
  /-- The file may not be read. -/
  | fileNotReadable (path : Text)
  /-- There are arguments behind the file. -/
  | extraArguments (first : Text) (others : List Text)
deriving DecidableEq, Repr

namespace UsageError

/-- The wording of a refusal about the file. -/
def aboutFile (path what : Text) : Text :=
  "Invalid value for '[INPUT_FILE]': File " ++ Quoted.ofText path ++ what

/-- The wording of a refusal. -/
def text : UsageError → Text
  | .noSuchOption name => "No such option " ++ Quoted.ofText name ++ "."
  | .missingValue name => "Option " ++ Quoted.ofText name ++ " requires an argument."
  | .unexpectedValue name => "Option " ++ Quoted.ofText name ++ " does not take a value."
  | .noSuchFile path => aboutFile path " does not exist."
  | .fileIsDirectory path => aboutFile path " is a directory."
  | .fileNotReadable path => aboutFile path " is not readable."
  | .extraArguments first others =>
    (if others = [] then "Got unexpected extra argument (" else "Got unexpected extra arguments (") ++
      Text.join " " (first :: others) ++ ")"

/-- Whether a refusal comes with a reminder of the usage.  One about the value of an option stands
alone. -/
def showsUsage : UsageError → Bool
  | .missingValue _ | .unexpectedValue _ => false
  | _ => true

/-- All that is told about a refusal. -/
def told (e : UsageError) : Text :=
  (if e.showsUsage then usage else []) ++ echo ("Error: " ++ e.text)

end UsageError

/-- The arguments by their form: options taken apart, and what is no option as it stands. -/
structure Reading where
  /-- The arguments that are no options. -/
  files : List Text := []
  /-- The first question about the program. -/
  inquiry : Option Inquiry := none
  /-- What the options ask for. -/
  chosen : Arguments := {}
deriving DecidableEq, Repr

namespace Reading

/-- The reading with one more flag. -/
def setFlag (r : Reading) : Flag → Reading
  | .caseless on => { r with chosen.caseless := some on }
  | .skipDirectives on => { r with chosen.skipDirectives := some on }
  | .markLines => { r with chosen.markLines := true }
  | .verbose => { r with chosen.verbose := true }
  | .inquire about => { r with inquiry := r.inquiry.or (some about) }

/-- The reading with a line of script. -/
def setExpression (r : Reading) (line : Text) : Reading :=
  { r with chosen.expression := some line }

/-- The name of a long option, and the value behind its equals sign. -/
def splitValue (arg : Text) : Text × Option Text :=
  match arg.dropWhile (· != '=') with
  | [] => (arg, none)
  | _ :: value => (arg.takeWhile (· != '='), some value)

/-- Reads joined short options.  If the last of them still needs its value, its name is given. -/
def readShort (r : Reading) : Text → Except UsageError (Reading × Option Text)
  | [] => .ok (r, none)
  | c :: others =>
    match shortOptions.lookup c with
    | none => .error (.noSuchOption ['-', c])
    | some (.flag f) => readShort (r.setFlag f) others
    | some .expression =>
      if others = [] then .ok (r, some ['-', c]) else .ok (r.setExpression others, none)

/-- Reads an option.  If it still needs its value, its name is given. -/
def readOption (r : Reading) (arg : Text) : Except UsageError (Reading × Option Text) :=
  let (name, value) := splitValue arg
  match longOptions.lookup name, value with
  | some (.flag f), none => .ok (r.setFlag f, none)
  | some (.flag _), some _ => .error (.unexpectedValue name)
  | some .expression, none => .ok (r, some name)
  | some .expression, some value => .ok (r.setExpression value, none)
  | none, _ =>
    if ['-', '-'].isPrefixOf arg then .error (.noSuchOption name) else readShort r (arg.drop 1)

/-- Whether an argument is an option: a dash alone is a file name. -/
def isOption : Text → Bool
  | '-' :: _ :: _ => true
  | _ => false

/-- Reads arguments, in addition to those read before. -/
def readMore (r : Reading) : List Text → Except UsageError Reading
  | [] => .ok r
  | arg :: args =>
    if arg = ['-', '-'] then .ok { r with files := r.files ++ args }
    else if isOption arg then
      match r.readOption arg with
      | .error e => .error e
      | .ok (r, none) => readMore r args
      | .ok (r, some name) =>
        match args with
        | [] => .error (.missingValue name)
        | value :: args => readMore (r.setExpression value) args
    else readMore { r with files := r.files ++ [arg] } args

/-- Reads all arguments. -/
def ofList (args : List Text) : Except UsageError Reading := readMore {} args

/-- Looks for the file at a path. -/
def checkFile (files : FileSystem) (path : Text) : Except UsageError Unit :=
  match files path with
  | .ok _ | .error (.system _ _) => .ok ()
  | .error .isDirectory => .error (.fileIsDirectory path)
  | .error (.notPermitted _ _) => .error (.fileNotReadable path)
  | .error _ => .error (.noSuchFile path)

/-- What is asked for, once the file has been looked for. -/
def arguments (files : FileSystem) (r : Reading) : Except UsageError Arguments :=
  match r.files with
  | [] => .ok { r.chosen with file := none }
  | path :: others =>
    match checkFile files path, others with
    | .error e, _ => .error e
    | .ok _, [] => .ok { r.chosen with file := some (Path.normal path) }
    | .ok _, first :: others => .error (.extraArguments first others)

end Reading

/-- Reads and checks the arguments of a command line. -/
def parse (files : FileSystem) (args : List Text) : Parsed :=
  match Reading.ofList args with
  | .error e => .refused e.told
  | .ok r =>
    match r.inquiry with
    | some inquiry => .answered inquiry.answer
    | none =>
      match r.arguments files with
      | .error e => .refused e.told
      | .ok a => .accepted a

/-- The paths under which a command line may look for a file. -/
def soughtPaths (args : List Text) : List Text :=
  match Reading.ofList args with
  | .ok r => r.files.take 1 ++ (r.files.take 1).map Path.normal
  | .error _ => []

end ScriptLexer.CommandLine
