import ScriptLexer.Source.Directory

/-!
# Arguments

The arguments are read by a parser of the shell.  It refuses them, or answers a question about the
program on its own, or hands over what they ask for (`Parsed`).  A file that is named has been looked
for (`Arguments.Checked`).  What is left to the program is that there is one thing to read.
-/

namespace ScriptLexer.CommandLine

/-- What accepted arguments ask for. -/
structure Arguments where
  /-- The path of the file to read, in its normal form. -/
  file : Option Text := none
  /-- The line of script to read. -/
  expression : Option Text := none
  /-- The choice about the caseless comparisons. -/
  caseless : Option Bool := none
  /-- The choice about directives. -/
  skipDirectives : Option Bool := none
  /-- Whether marks are asked for. -/
  markLines : Bool := false
  /-- Whether the log is asked for. -/
  verbose : Bool := false
deriving DecidableEq, Repr

/-- What is to be read. -/
inductive Job where
  | line (t : Text)
  | file (path : Text)
deriving DecidableEq, Repr

/-- Why the program refuses arguments that the parser accepts. -/
inductive Refusal where
  /-- There is neither a file nor a line. -/
  | nothingToRead
  /-- There are both a file and a line. -/
  | fileAndExpression
deriving DecidableEq, Repr

/-- The wording of a refusal. -/
def Refusal.message : Refusal → Text
  | .nothingToRead => "give an INPUT_FILE or use -e/--expr"
  | .fileAndExpression => "INPUT_FILE and -e/--expr cannot be combined"

namespace Arguments

/-- What the arguments give to read. -/
def job (a : Arguments) : Except Refusal Job :=
  match a.file, a.expression with
  | none, none => .error .nothingToRead
  | some _, some _ => .error .fileAndExpression
  | none, some line => .ok (.line line)
  | some path, none => .ok (.file path)

/-- The file that the arguments name can be opened. -/
def Checked (files : FileSystem) (a : Arguments) : Prop :=
  ∀ path, a.file = some path → ∃ bytes, files path = .ok bytes

end Arguments

/-- What the parser makes of the arguments. -/
inductive Parsed where
  /-- They are refused, and the user has been told why. -/
  | refused (told : Text)
  /-- They ask about the program, and the answer has been given. -/
  | answered (text : Text)
  /-- They ask for tokens. -/
  | accepted (a : Arguments)
deriving DecidableEq, Repr

/-- A file that accepted arguments name has been looked for. -/
def Parsed.Checked (files : FileSystem) (parsed : Parsed) : Prop :=
  ∀ a, parsed = .accepted a → a.Checked files

end ScriptLexer.CommandLine
