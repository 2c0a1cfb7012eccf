import ScriptLexer.Kind.Keyword
import ScriptLexer.Kind.Operator

/-!
# Kinds of tokens

A token is an operator, a keyword, a literal or name whose spelling varies, or one of two marks that
stand for no text.  Every kind has a spelling in the language's table; that of a kind without fixed
text is a description for messages.
-/

namespace ScriptLexer

/-- What a token is. -/
inductive Kind where
  | operator (o : Operator)
  | keyword (k : Keyword)
  | stringLiteral
  | intLiteral
  | floatLiteral
  | identifier
  | endOfFile
  | emptyLine
deriving DecidableEq, Repr

namespace Kind

/-- The four groups of kinds. -/
inductive Group where
  | operator | keyword | literal | sentinel
deriving DecidableEq, Repr

/-- The name of a group. -/
def Group.name : Group → Text
  | .operator => "operator"
  | .keyword => "keyword"
  | .literal => "literal"
  | .sentinel => "sentinel"

/-- The kinds with fixed text: the operators, then the keywords. -/
def fixed : List Kind := Operator.all.map .operator ++ Keyword.all.map .keyword

/-- All kinds, in the order of the language's table. -/
def all : List Kind :=
  fixed ++ [.stringLiteral, .intLiteral, .floatLiteral, .identifier, .endOfFile, .emptyLine]

theorem operator_mem_fixed (o : Operator) : .operator o ∈ fixed :=
  List.mem_append_left _ (List.mem_map_of_mem (Operator.mem_all o))

theorem keyword_mem_fixed (k : Keyword) : .keyword k ∈ fixed :=
  List.mem_append_right _ (List.mem_map_of_mem (Keyword.mem_all k))

theorem mem_all (k : Kind) : k ∈ all := by
  cases k with
  | operator o => exact List.mem_append_left _ (operator_mem_fixed o)
  | keyword k => exact List.mem_append_left _ (keyword_mem_fixed k)
  | _ => exact List.mem_append_right _ (by simp)

/-- The group of a kind. -/
def group : Kind → Group
  | .operator _ => .operator
  | .keyword _ => .keyword
  | .stringLiteral | .intLiteral | .floatLiteral | .identifier => .literal
  | .endOfFile | .emptyLine => .sentinel

/-- The name under which a kind is reported. -/
def name : Kind → Text
  | .operator o => o.name
  | .keyword k => k.name
  | .stringLiteral => "STRING_LITERAL"
  | .intLiteral => "INT_LITERAL"
  | .floatLiteral => "FLOAT_LITERAL"
  | .identifier => "IDENTIFIER"
  | .endOfFile => "EOF"
  | .emptyLine => "EMPTY"

/-- The kind reported under a name. -/
def ofName? (name : Text) : Option Kind := all.find? fun k => k.name == name

/-- How the language spells a kind, or describes it if its text varies. -/
def standardSpelling : Kind → Text
  | .operator o => o.standardSpelling
  | .keyword k => k.standardSpelling
  | .stringLiteral => "string literal"
  | .intLiteral => "integer literal"
  | .floatLiteral => "floating point literal"
  | .identifier => "identifier"
  | .endOfFile => "end of file"
  | .emptyLine => "empty line - you should never see this"

/-- Whether a kind belongs to the caseless comparisons. -/
def isCaseless : Kind → Bool
  | .operator o => o.isCaseless
  | _ => false

/-- The kind that tokens of this kind are reported as. -/
def canonical : Kind → Kind
  | .operator o => .operator o.canonical
  | k => k

/-- Whether tokens of this kind are string, integer or floating point literals. -/
def isLiteral : Kind → Bool
  | .stringLiteral | .intLiteral | .floatLiteral => true
  | _ => false

/-- Whether tokens of this kind are keywords. -/
def isKeyword : Kind → Bool
  | .keyword _ => true
  | _ => false

end Kind

end ScriptLexer
