import ScriptLexer.Comment
import ScriptLexer.Literal
import ScriptLexer.Source.Mark
import ScriptLexer.Text.Utf8
import ScriptLexer.Token

/-!
# Faults and their wording

A fault is the cause for which no token can be given, with the text that shows it.  A diagnostic is
what a reader is told: a class, a sentence, and if known a place, a piece of the source and a hint.
Every wording is decided here.
-/

namespace ScriptLexer

/-- What is wrong with a source. -/
inductive Fault where
  /-- Its byte order mark is refused. -/
  | mark (refusal : Mark.Refusal)
  /-- A line is not UTF-8. -/
  | encoding (fault : Utf8.Fault)
  /-- It ends inside a block comment. -/
  | openBlock
  /-- It ends inside a nested comment that lacks the given number of closing marks. -/
  | openNested (missing : Nat)
  /-- A closing mark at the start of `line` closes nothing. -/
  | strayClose (form : Comment.Form) (line : Text)
  /-- The literal at the start of `line` is refused. -/
  | literal (fault : Literal.Fault) (line : Text)
  /-- A name is kept for internal use. -/
  | reservedName (name : Text)
  /-- Nothing known stands at the start of `line`. -/
  | noToken (line : Text)
deriving DecidableEq, Repr

namespace Comment.Mode

/-- The fault of a source that ends in this mode. -/
def unclosed? : Mode → Option Fault
  | .outside => none
  | .block => some .openBlock
  | .nested extra => some (.openNested (extra + 1))

end Comment.Mode

namespace Diagnostic

/-- The classes of diagnostics. -/
inductive Class where
  | unsupportedEncoding | invalidEncoding | unterminatedComment | unmatchedCommentEnd
  | unterminatedString | invalidEscape | unhandledEscape | multilineString | reservedIdentifier
  | invalidToken
deriving DecidableEq, Repr

namespace Class

/-- The classes, in order. -/
def all : List Class :=
  [.unsupportedEncoding, .invalidEncoding, .unterminatedComment, .unmatchedCommentEnd,
    .unterminatedString, .invalidEscape, .unhandledEscape, .multilineString, .reservedIdentifier,
    .invalidToken]

/-- The name of a class. -/
def name : Class → Text
  | .unsupportedEncoding => "UNSUPPORTED_ENCODING"
  | .invalidEncoding => "INVALID_ENCODING"
  | .unterminatedComment => "UNTERMINATED_COMMENT"
  | .unmatchedCommentEnd => "UNMATCHED_COMMENT_END"
  | .unterminatedString => "UNTERMINATED_STRING"
  | .invalidEscape => "INVALID_ESCAPE"
  | .unhandledEscape => "UNHANDLED_ESCAPE"
  | .multilineString => "MULTILINE_STRING"
  | .reservedIdentifier => "RESERVED_IDENTIFIER"
  | .invalidToken => "INVALID_TOKEN"

/-- The class of a name. -/
def ofName? (name : Text) : Option Class := all.find? fun c => c.name == name

end Class

end Diagnostic

/-- What a reader is told about a fault. -/
structure Diagnostic where
  /-- The class of the fault. -/
  kind : Diagnostic.Class
  /-- The sentence that describes it. -/
  text : Text
  /-- Where it is, if lines are counted. -/
  location : Option Location := none
  /-- How to mend it. -/
  hint : Option Text := none
  /-- The piece of source at which it was found. -/
  source : Option Text := none
deriving DecidableEq, Repr

namespace Diagnostic

/-- An extra line of a message, left out if there is nothing to say. -/
def extraLine (lead : Text) : Option Text → Text
  | none => []
  | some [] => []
  | some t => '\n' :: lead ++ t

/-- The whole message: place and sentence, then the piece of source, then the hint, each on a line
of its own. -/
def render (d : Diagnostic) : Text :=
  let place : Text :=
    match d.location with
    | some l => l.render ++ ": "
    | none => []
  place ++ d.text ++ extraLine "    " d.source ++ extraLine "hint: " d.hint

end Diagnostic

namespace Fault

/-- The class of a fault. -/
def kind : Fault → Diagnostic.Class
  | .mark _ => .unsupportedEncoding
  | .encoding _ => .invalidEncoding
  | .openBlock | .openNested _ => .unterminatedComment
  | .strayClose _ _ => .unmatchedCommentEnd
  | .literal (.unterminated _) _ => .unterminatedString
  | .literal (.escape .endOfLine) _ => .multilineString
  | .literal (.escape (.noDigits _)) _ | .literal (.escape (.tooLarge _ _)) _ => .invalidEscape
  | .literal (.escape (.unknown _)) _ => .unhandledEscape
  | .reservedName _ => .reservedIdentifier
  | .noToken _ => .invalidToken

/-- The sentence that describes a fault. -/
def text : Fault → Text
  | .mark (.unknown shown) => "unknown BOM value " ++ shown
  | .mark .unsupported => "UTF16 and UTF32 files are not supported yet"
  | .encoding fault => "invalid UTF-8 sequence: " ++ fault.reason
  | .openBlock => "unterminated block comment"
  | .openNested _ => "unterminated nested comment"
  | .strayClose .block _ => "unexpected end of block comment"
  | .strayClose .nested _ => "unexpected end of nested comment"
  | .literal (.unterminated _) line => "unterminated string literal '" ++ line ++ "'"
  | .literal (.escape .endOfLine) _ => "multiline string literals not supported"
  | .literal (.escape (.noDigits form)) _ => "invalid " ++ form.name ++ " escape code"
  | .literal (.escape (.tooLarge form value)) _ =>
    "invalid " ++ form.name ++ " escape code: 0x" ++ Numeral.upperHex value ++
      " is beyond U+10FFFF"
  | .literal (.escape (.unknown c)) _ => "unhandled escape code: \\" ++ [c]
  | .reservedName name =>
    "identifier " ++ name ++ " is not allowed to begin with __"
  | .noToken line => "invalid token " ++ line

/-- How to mend a fault. -/
def hint : Fault → Option Text
  | .mark .unsupported => some "save the file as UTF-8"
  | .openBlock => some "add */ to close the comment"
  | .openNested missing => some (Numeral.decimal missing ++ " +/ still missing")
  | .literal (.unterminated quote) _ =>
    some ("add the closing " ++ [quote.char] ++ " on the same line")
  | .literal (.escape (.unknown _)) _ =>
    some "use \\\\ for a literal backslash, or a r\"...\" string"
  | .reservedName _ => some "names starting with __ are reserved for internal use"
  | _ => none

/-- The piece of source shown with a fault. -/
def source : Fault → Option Text
  | .strayClose _ line => some line
  | .literal (.escape _) line => some line
  | _ => none

/-- What a reader is told about a fault at a place. -/
def diagnostic (f : Fault) (location : Option Location) : Diagnostic where
  kind := f.kind
  text := f.text
  location := location
  hint := f.hint
  source := f.source

end Fault

end ScriptLexer
