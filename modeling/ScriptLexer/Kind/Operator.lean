import ScriptLexer.Text.Basic

/-!
# Operators

Operators and punctuation have fixed spellings.  The four caseless comparisons form a family that
can be switched off; the two of them written with a capital are read as their small twins.
-/

namespace ScriptLexer

/-- An operator or punctuation mark. -/
inductive Operator where
  | semicolon | ellipsis | range | leftParen | rightParen | leftCurl | rightCurl | leftSquare
  | rightSquare | dot | comma | colon | dollar | atSign | equal | notEqual | caselessEqual
  | caselessEqualUpper | caselessNotEqual | caselessNotEqualUpper | less | greater | lessEqual
  | greaterEqual | logicalAnd | logicalOr | logicalNot | assign | addAssign | subtractAssign
  | multiplyAssign | divideAssign | remainderAssign | integerDivideAssign | concatenateAssign
  | increment | decrement | add | subtract | multiply | divide | remainder | integerDivide
  | concatenate
deriving DecidableEq, Repr

namespace Operator

/-- The operators in the order of the language's table. -/
def all : List Operator :=
  [.semicolon, .ellipsis, .range, .leftParen, .rightParen, .leftCurl, .rightCurl, .leftSquare,
    .rightSquare, .dot, .comma, .colon, .dollar, .atSign, .equal, .notEqual, .caselessEqual,
    .caselessEqualUpper, .caselessNotEqual, .caselessNotEqualUpper, .less, .greater, .lessEqual,
    .greaterEqual, .logicalAnd, .logicalOr, .logicalNot, .assign, .addAssign, .subtractAssign,
    .multiplyAssign, .divideAssign, .remainderAssign, .integerDivideAssign, .concatenateAssign,
    .increment, .decrement, .add, .subtract, .multiply, .divide, .remainder, .integerDivide,
    .concatenate]

theorem mem_all (o : Operator) : o ∈ all := by cases o <;> decide

/-- The name under which an operator is reported. -/
def name : Operator → Text
  | .semicolon => "SEMICOLON"
  | .ellipsis => "DDDOT"
  | .range => "DDOT"
  | .leftParen => "LEFT_PAREN"
  | .rightParen => "RIGHT_PAREN"
  | .leftCurl => "LEFT_CURL"
  | .rightCurl => "RIGHT_CURL"
  | .leftSquare => "LEFT_SQUARE"
  | .rightSquare => "RIGHT_SQUARE"
  | .dot => "DOT"
  | .comma => "COMMA"
  | .colon => "COLON"
  | .dollar => "DOLLAR"
  | .atSign => "ALPHA"
  | .equal => "IS_EQUAL"
  | .notEqual => "NOT_EQUAL"
  | .caselessEqual => "IS_CASE_EQUAL"
  | .caselessEqualUpper => "IS_CASE_EQUAL2"
  | .caselessNotEqual => "NOT_CASE_EQUAL"
  | .caselessNotEqualUpper => "NOT_CASE_EQUAL2"
  | .less => "LESS"
  | .greater => "MORE"
  | .lessEqual => "LESS_EQ"
  | .greaterEqual => "MORE_EQ"
  | .logicalAnd => "AND"
  | .logicalOr => "OR"
  | .logicalNot => "NOT"
  | .assign => "EQUALS"
  | .addAssign => "PLUS_EQ"
  | .subtractAssign => "MINUS_EQ"
  | .multiplyAssign => "MULT_EQ"
  | .divideAssign => "DIV_EQ"
  | .remainderAssign => "REM_EQ"
  | .integerDivideAssign => "IDIV_EQ"
  | .concatenateAssign => "CAT_EQ"
  | .increment => "PLUS_PLUS"
  | .decrement => "MINUS_MINUS"
  | .add => "PLUS"
  | .subtract => "MINUS"
  | .multiply => "MULT"
  | .divide => "DIV"
  | .remainder => "REM"
  | .integerDivide => "IDIV"
  | .concatenate => "CAT"

/-- How the language spells an operator. -/
def standardSpelling : Operator → Text
  | .semicolon => ";"
  | .ellipsis => "..."
  | .range => ".."
  | .leftParen => "("
  | .rightParen => ")"
  | .leftCurl => "\x7b"
  | .rightCurl => "\x7d"
  | .leftSquare => "["
  | .rightSquare => "]"
  | .dot => "."
  | .comma => ","
  | .colon => ":"
  | .dollar => "$"
  | .atSign => "@"
  | .equal => "=="
  | .notEqual => "!="
  | .caselessEqual => "=i="
  | .caselessEqualUpper => "=I="
  | .caselessNotEqual => "!=i="
  | .caselessNotEqualUpper => "!=I="
  | .less => "<"
  | .greater => ">"
  | .lessEqual => "<="
  | .greaterEqual => ">="
  | .logicalAnd => "&&"
  | .logicalOr => "||"
  | .logicalNot => "!"
  | .assign => "="
  | .addAssign => "+="
  | .subtractAssign => "-="
  | .multiplyAssign => "*="
  | .divideAssign => "/="
  | .remainderAssign => "%="
  | .integerDivideAssign => "\\="
  | .concatenateAssign => "~="
  | .increment => "++"
  | .decrement => "--"
  | .add => "+"
  | .subtract => "-"
  | .multiply => "*"
  | .divide => "/"
  | .remainder => "%"
  | .integerDivide => "\\"
  | .concatenate => "~"

/-- Whether an operator belongs to the caseless comparisons. -/
def isCaseless : Operator → Bool
  | .caselessEqual | .caselessEqualUpper | .caselessNotEqual | .caselessNotEqualUpper => true
  | _ => false

/-- The operator that a spelling is reported as: the capital twins count as the small ones. -/
def canonical : Operator → Operator
  | .caselessEqualUpper => .caselessEqual
  | .caselessNotEqualUpper => .caselessNotEqual
  | o => o

@[simp] theorem canonical_canonical (o : Operator) : o.canonical.canonical = o.canonical := by
  cases o <;> rfl

@[simp] theorem isCaseless_canonical (o : Operator) : o.canonical.isCaseless = o.isCaseless := by
  cases o <;> rfl

end Operator

end ScriptLexer
