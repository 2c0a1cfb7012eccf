import ScriptLexer.Comment
import ScriptLexer.Options
import ScriptLexer.Source.Mark
import ScriptLexer.Token

/-!
# Events

What happens while a source is read can be followed in a log.  An event names the part of the
program that it belongs to.
-/

namespace ScriptLexer

/-- Something worth a line of the log. -/
inductive Event where
  /-- The options were chosen. -/
  | optionsChosen (o : Options)
  /-- A file was opened. -/
  | opened (path : Text) (mark : Mark)
  /-- The table of the language was built. -/
  | tableBuilt
  /-- A comment was entered or left. -/
  | modeChanged (old new : Comment.Mode)
  /-- A directive was skipped. -/
  | directiveSkipped (location : Location) (line : Text)
  /-- All tokens of a source were read. -/
  | tokenized (file : Text) (count : Nat)
  /-- A stream is about to be closed. -/
  | closing (file : Text)
deriving DecidableEq, Repr

namespace Event

/-- The part of the program that an event belongs to. -/
def part : Event → Text
  | .optionsChosen _ => "monster.cli.mtok"
  | .opened _ _ => "monster.compiler.source"
  | .tableBuilt => "monster.compiler.tokens"
  | .modeChanged _ _ => "monster.compiler.comments"
  | .directiveSkipped _ _ | .tokenized _ _ | .closing _ => "monster.compiler.tokenizer"

/-- A setting as it stands in the log. -/
def flag (b : Bool) : Text := if b then "True" else "False"

/-- What the log tells about an event. -/
def text : Event → Text
  | .optionsChosen o =>
    "Options: TokenizerOptions(case_insensitive_comparison_operators=" ++
      flag o.caselessOperators ++ ", skip_directive_lines=" ++ flag o.skipDirectives ++ ")"
  | .opened path mark => "Opened " ++ path ++ " (BOM: " ++ mark.name ++ ")"
  | .tableBuilt =>
    "Token table built: " ++ Numeral.decimal Operator.all.length ++ " operators, " ++
      Numeral.decimal Keyword.all.length ++ " keywords"
  | .modeChanged old new => "Comment mode " ++ old.name ++ " -> " ++ new.name
  | .directiveSkipped location line =>
    location.render ++ ": skipping directive " ++ Quoted.ofText line
  | .tokenized file count => "Tokenized " ++ file ++ ": " ++ Numeral.decimal count ++ " tokens"
  | .closing file => "Closing " ++ file

/-- An event as a line of the log. -/
def render (e : Event) : Text := "DEBUG: " ++ e.part ++ ": " ++ e.text

end Event

end ScriptLexer
