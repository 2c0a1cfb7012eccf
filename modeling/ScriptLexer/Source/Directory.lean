import ScriptLexer.Source.Path
import ScriptLexer.Text.Quoted

/-!
# Files

Sources are found by their paths.  A directory is a list of named entries, each a file with its
bytes or an empty directory, and a path is followed from it part by part.

A file that is found is read to its end: an error of the disk in the middle of a file is not
represented, and neither are links, so that a path leads to the same place whenever it is followed.
-/

namespace ScriptLexer

/-- Why a path leads to no file that can be read. -/
inductive OpenFault where
  /-- A part of the path names nothing. -/
  | missing
  /-- The path leads to a directory. -/
  | isDirectory
  /-- The path goes on behind a file. -/
  | notDirectory
  /-- The path holds a NUL character, which no file name does. -/
  | nulCharacter
  /-- The system does not permit the reading, for a reason that it numbers and words. -/
  | notPermitted (number : Nat) (reason : Text)
  /-- The system fails for another reason that it numbers and words. -/
  | system (number : Nat) (reason : Text)
deriving DecidableEq, Repr

namespace OpenFault

/-- The wording of a reason that the system numbers. -/
def numbered (number : Nat) (reason path : Text) : Text :=
  "[Errno " ++ Numeral.decimal number ++ "] " ++ reason ++ ": " ++ Quoted.ofText path

/-- The wording of a failure to open a path. -/
def message (path : Text) : OpenFault → Text
  | .missing => numbered 2 "No such file or directory" path
  | .isDirectory => numbered 21 "Is a directory" path
  | .notDirectory => numbered 20 "Not a directory" path
  | .nulCharacter => "embedded null byte"
  | .notPermitted number reason | .system number reason => numbered number reason path

end OpenFault

/-- A way to find the bytes of a file. -/
abbrev FileSystem := Text → Except OpenFault (List UInt8)

/-- The entries of a directory: a file with its bytes, or an empty directory. -/
abbrev Directory := List (Text × Option (List UInt8))

namespace Directory

/-- A place reached on the way along a path. -/
inductive Place where
  /-- The directory itself. -/
  | base
  /-- An empty directory in it. -/
  | inner
  /-- A directory outside, of whose entries nothing is known. -/
  | outer
  /-- A file with its bytes. -/
  | file (bytes : List UInt8)
deriving DecidableEq, Repr

/-- Follows one part of a path. -/
def step (d : Directory) (part : Text) : Place → Except OpenFault Place
  | .file _ => .error .notDirectory
  | .base =>
    if part = [] ∨ part = Path.here then .ok .base
    else if part = Path.up then .ok .outer
    else
      match d.lookup part with
      | none => .error .missing
      | some none => .ok .inner
      | some (some bytes) => .ok (.file bytes)
  | .inner =>
    if part = [] ∨ part = Path.here then .ok .inner
    else if part = Path.up then .ok .base
    else .error .missing
  | .outer =>
    if part = [] ∨ part = Path.here ∨ part = Path.up then .ok .outer else .error .missing

/-- Follows the parts of a path. -/
def walk (d : Directory) : Place → List Text → Except OpenFault Place
  | place, [] => .ok place
  | place, part :: parts =>
    match d.step part place with
    | .ok next => walk d next parts
    | .error fault => .error fault

/-- The bytes of the file that a path leads to.  A path that begins with a slash leads outside. -/
def find (d : Directory) : FileSystem := fun path =>
  if path = [] then .error .missing
  else if path.contains '\x00' then .error .nulCharacter
  else
    match d.walk (if Path.root path = [] then .base else .outer) (Path.parts path) with
    | .ok (.file bytes) => .ok bytes
    | .ok _ => .error .isDirectory
    | .error fault => .error fault

end Directory

end ScriptLexer
