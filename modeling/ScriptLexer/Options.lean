import ScriptLexer.Text.Blank

/-!
# Options

Two settings change what counts as a token.  Their values come from defaults, from the environment
and from the caller, the later ones winning.  A setting of the environment is a switch word in any
case with blanks around it; any other word leaves the default.
-/

namespace ScriptLexer

/-- What may be switched. -/
structure Options where
  /-- Whether the caseless comparisons are operators. -/
  caselessOperators : Bool := true
  /-- Whether a number sign ends a line read from a source. -/
  skipDirectives : Bool := true
deriving DecidableEq, Repr

namespace Options

/-- The meaning of a switch word. -/
def switch? (word : Text) : Option Bool :=
  let word := (Text.trim word).map Char.toLower
  if ["1", "true", "yes", "on"].any fun w => w.toList == word then some true
  else if ["0", "false", "no", "off"].any fun w => w.toList == word then some false
  else none

/-- An environment: variables with their values. -/
abbrev Environment := List (Text × Text)

/-- The variable that switches the caseless comparisons. -/
def caselessVariable : Text := "MONSTER_CI_STRING_OPS"

/-- The variable that switches the skipping of directives. -/
def directivesVariable : Text := "MONSTER_SKIP_HASHES"

/-- The variables with a meaning. -/
def variableNames : List Text := [caselessVariable, directivesVariable]

/-- The setting of a variable, if it holds a switch word. -/
def setting? (environment : Environment) (name : Text) : Option Bool :=
  (environment.lookup name).bind switch?

/-- The options that an environment asks for. -/
def ofEnvironment (environment : Environment) : Options where
  caselessOperators := (setting? environment caselessVariable).getD true
  skipDirectives := (setting? environment directivesVariable).getD true

/-- The options with those replaced that a caller chose. -/
def choose (o : Options) (caseless directives : Option Bool) : Options where
  caselessOperators := caseless.getD o.caselessOperators
  skipDirectives := directives.getD o.skipDirectives

end Options

end ScriptLexer
