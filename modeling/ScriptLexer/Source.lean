import ScriptLexer.Source.Directory
import ScriptLexer.Source.Mark
import ScriptLexer.Source.Stream

/-!
# Opening a source

A file is opened for reading behind its byte order mark, so that the mark is never part of the text.
-/

namespace ScriptLexer

/-- A file found and read up to the end of its byte order mark. -/
structure OpenedFile where
  /-- The mark at its start. -/
  mark : Mark
  /-- The place where reading goes on. -/
  position : Nat
  /-- The bytes from there. -/
  rest : List UInt8
deriving DecidableEq, Repr

/-- Opens the file that a path leads to. -/
def OpenedFile.open (files : FileSystem) (path : Text) : Except OpenFault OpenedFile :=
  match files path with
  | .error fault => .error fault
  | .ok bytes =>
    let (mark, position) := Mark.detect bytes
    .ok { mark, position, rest := bytes.drop position }

end ScriptLexer
