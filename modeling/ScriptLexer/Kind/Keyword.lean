import ScriptLexer.Text.Basic

/-!
# Keywords

Keywords are names that the language keeps for itself.
-/

namespace ScriptLexer

/-- A reserved word of the language. -/
inductive Keyword where
  | classWord | moduleWord | singletonWord | ifWord | elseWord | forWord | foreachWord
  | foreachReverseWord | doWord | whileWord | untilWord | continueWord | breakWord | typeofWord
  | returnWord | switchWord | selectWord | stateWord | structWord | enumWord | importWord
  | cloneWord | overrideWord | finalWord | functionWord | withWord | thisWord | newWord
  | staticWord | constWord | outWord | refWord | abstractWord | idleWord | publicWord | privateWord
  | protectedWord | trueWord | falseWord | nativeWord | nullWord | gotoWord | varWord
deriving DecidableEq, Repr

namespace Keyword

/-- The keywords in the order of the language's table. -/
def all : List Keyword :=
  [.classWord, .moduleWord, .singletonWord, .ifWord, .elseWord, .forWord, .foreachWord,
    .foreachReverseWord, .doWord, .whileWord, .untilWord, .continueWord, .breakWord, .typeofWord,
    .returnWord, .switchWord, .selectWord, .stateWord, .structWord, .enumWord, .importWord,
    .cloneWord, .overrideWord, .finalWord, .functionWord, .withWord, .thisWord, .newWord,
    .staticWord, .constWord, .outWord, .refWord, .abstractWord, .idleWord, .publicWord,
    .privateWord, .protectedWord, .trueWord, .falseWord, .nativeWord, .nullWord, .gotoWord,
    .varWord]

theorem mem_all (k : Keyword) : k ∈ all := by cases k <;> decide

/-- The name under which a keyword is reported. -/
def name : Keyword → Text
  | .classWord => "CLASS"
  | .moduleWord => "MODULE"
  | .singletonWord => "SINGLETON"
  | .ifWord => "IF"
  | .elseWord => "ELSE"
  | .forWord => "FOR"
  | .foreachWord => "FOREACH"
  | .foreachReverseWord => "FOREACH_REV"
  | .doWord => "DO"
  | .whileWord => "WHILE"
  | .untilWord => "UNTIL"
  | .continueWord => "CONTINUE"
  | .breakWord => "BREAK"
  | .typeofWord => "TYPEOF"
  | .returnWord => "RETURN"
  | .switchWord => "SWITCH"
  | .selectWord => "SELECT"
  | .stateWord => "STATE"
  | .structWord => "STRUCT"
  | .enumWord => "ENUM"
  | .importWord => "IMPORT"
  | .cloneWord => "CLONE"
  | .overrideWord => "OVERRIDE"
  | .finalWord => "FINAL"
  | .functionWord => "FUNCTION"
  | .withWord => "WITH"
  | .thisWord => "THIS"
  | .newWord => "NEW"
  | .staticWord => "STATIC"
  | .constWord => "CONST"
  | .outWord => "OUT"
  | .refWord => "REF"
  | .abstractWord => "ABSTRACT"
  | .idleWord => "IDLE"
  | .publicWord => "PUBLIC"
  | .privateWord => "PRIVATE"
  | .protectedWord => "PROTECTED"
  | .trueWord => "TRUE"
  | .falseWord => "FALSE"
  | .nativeWord => "NATIVE"
  | .nullWord => "NULL"
  | .gotoWord => "GOTO"
  | .varWord => "VAR"

/-- How the language spells a keyword. -/
def standardSpelling : Keyword → Text
  | .classWord => "class"
  | .moduleWord => "module"
  | .singletonWord => "singleton"
  | .ifWord => "if"
  | .elseWord => "else"
  | .forWord => "for"
  | .foreachWord => "foreach"
  | .foreachReverseWord => "foreach_reverse"
  | .doWord => "do"
  | .whileWord => "while"
  | .untilWord => "until"
  | .continueWord => "continue"
  | .breakWord => "break"
  | .typeofWord => "typeof"
  | .returnWord => "return"
  | .switchWord => "switch"
  | .selectWord => "select"
  | .stateWord => "state"
  | .structWord => "struct"
  | .enumWord => "enum"
  | .importWord => "import"
  | .cloneWord => "clone"
  | .overrideWord => "override"
  | .finalWord => "final"
  | .functionWord => "function"
  | .withWord => "with"
  | .thisWord => "this"
  | .newWord => "new"
  | .staticWord => "static"
  | .constWord => "const"
  | .outWord => "out"
  | .refWord => "ref"
  | .abstractWord => "abstract"
  | .idleWord => "idle"
  | .publicWord => "public"
  | .privateWord => "private"
  | .protectedWord => "protected"
  | .trueWord => "true"
  | .falseWord => "false"
  | .nativeWord => "native"
  | .nullWord => "null"
  | .gotoWord => "goto"
  | .varWord => "var"

end Keyword

end ScriptLexer
