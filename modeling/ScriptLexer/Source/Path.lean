import ScriptLexer.Text.Basic

/-!
# Paths

A path is a text cut into parts by slashes.  Its normal form leaves out empty parts and the parts
that name the place where they stand, but keeps those that go up, since what lies above a link is
not known from the text.
-/

namespace ScriptLexer.Path

/-- The parts of a path, those before, between and behind its slashes. -/
def parts (path : Text) : List Text := Text.parts '/' path

/-- The part that names the place where it stands. -/
def here : Text := "."

/-- The part that goes up. -/
def up : Text := ".."

/-- The slashes that begin the normal form of a path: two stay two, more become one. -/
def root (path : Text) : Text :=
  match path.takeWhile (· == '/') with
  | [] => []
  | ['/', '/'] => "//"
  | _ => "/"

/-- The normal form of a path. -/
def normal (path : Text) : Text :=
  let kept := (parts path).filter fun part => !part.isEmpty && part != here
  match root path ++ Text.join "/" kept with
  | [] => here
  | t => t

end ScriptLexer.Path
