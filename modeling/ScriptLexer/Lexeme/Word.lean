import ScriptLexer.Lexeme.Basic
import ScriptLexer.Table

/-!
# Words

A word is a name, or a keyword if the table spells one so.  Names that begin with two underscores
are kept for internal use; a script may write only one of them.
-/

namespace ScriptLexer.Word

/-- What reserved names begin with. -/
def reservedStart : Text := "__"

/-- The one reserved name that scripts may use. -/
def allowedName : Text := "__STACK__"

/-- Whether a name may not be used in a script. -/
def isReserved (name : Text) : Bool := reservedStart.isPrefixOf name && name != allowedName

/-- What a name is. -/
def kind (table : Table) (name : Text) : Kind :=
  match table.keyword? name with
  | some k => .keyword k
  | none => .identifier

/-- Cuts off the word at the start of a line, unless the name there is reserved. -/
def read? (table : Table) (line : Text) : Option Lexeme :=
  let name := Name.leading line
  if isReserved name then none else some { kind := kind table name, text := name }

end ScriptLexer.Word
