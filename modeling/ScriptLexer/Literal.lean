import ScriptLexer.Literal.Escape
import ScriptLexer.Text.Quoted

/-!
# String literals

A string literal stands between two equal quotes, double or single.  With `r` or a backslash before
the first quote it is verbatim: nothing but the quote has a meaning.  In every form a doubled quote
stands for one quote, and this is looked for before the end of the literal is.  A literal ends on
the line on which it begins.
-/

namespace ScriptLexer

/-- The two quotes. -/
inductive Quote where
  | double | single
deriving DecidableEq, Repr

namespace Quote

/-- The quote as a character. -/
def char : Quote → Char
  | .double => '"'
  | .single => '\''

/-- The quote that a character is. -/
def ofChar? (c : Char) : Option Quote :=
  if c = '"' then some .double else if c = '\'' then some .single else none

end Quote

/-- A string literal. -/
structure Literal where
  /-- The literal as written, quotes included. -/
  raw : Text
  /-- The value it denotes. -/
  value : List CodePoint
  /-- The quote it stands in. -/
  quote : Quote
  /-- Whether backslashes stand for themselves. -/
  verbatim : Bool
deriving DecidableEq, Repr

namespace Literal

/-- How a literal begins. -/
structure Opening where
  /-- The quote that ends the literal. -/
  quote : Quote
  /-- Whether backslashes stand for themselves. -/
  verbatim : Bool
deriving DecidableEq, Repr

/-- Reads the opening of a literal, if one begins here. -/
def Opening.read? : Text → Option (Opening × Text)
  | [] => none
  | c :: r =>
    match Quote.ofChar? c with
    | some q => some (⟨q, false⟩, r)
    | none =>
      if c = 'r' ∨ c = '\\' then
        match r with
        | [] => none
        | d :: rest => (Quote.ofChar? d).map fun q => (⟨q, true⟩, rest)
      else none

/-- Whether a literal begins here. -/
def begins (line : Text) : Bool := (Opening.read? line).isSome

/-- Why a literal is refused. -/
inductive Fault where
  /-- The line ends inside the literal. -/
  | unterminated (quote : Quote)
  /-- An escape sequence is refused. -/
  | escape (fault : Escape.Fault)
deriving DecidableEq, Repr

/-- One more code point in front of what a literal's body denotes. -/
def prepend (p : CodePoint) :
    Except Fault (List CodePoint × Text) → Except Fault (List CodePoint × Text)
  | .ok (value, rest) => .ok (p :: value, rest)
  | .error fault => .error fault

/-- Reads what follows the opening, up to and including the closing quote: the value, and the text
behind the literal. -/
def body (o : Opening) : Text → Except Fault (List CodePoint × Text)
  | [] => .error (.unterminated o.quote)
  | c :: r =>
    if c = o.quote.char then
      match r with
      | [] => .ok ([], [])
      | d :: rest =>
        if d = o.quote.char then prepend (CodePoint.ofChar c) (body o rest) else .ok ([], d :: rest)
    else if c = '\\' ∧ o.verbatim = false then
      match _ : Escape.read r with
      | .error fault => .error (.escape fault)
      | .ok (p, rest) => prepend p (body o rest)
    else prepend (CodePoint.ofChar c) (body o r)
termination_by t => t.length
decreasing_by
  · simp only [List.length_cons]
    omega
  · rename_i h
    exact Nat.lt_succ_of_le (Escape.suffix_of_read h).length_le
  · simp

/-- Reads the literal at the start of a line; there is no answer if none begins there. -/
def read? (line : Text) : Option (Except Fault Literal) :=
  (Opening.read? line).map fun (opening, inner) =>
    match body opening inner with
    | .error fault => .error fault
    | .ok (value, rest) =>
      .ok { raw := line.take (line.length - rest.length), value,
            quote := opening.quote, verbatim := opening.verbatim }

/-- The wording for a line at which no literal begins. -/
def noneMessage (line : Text) : Text := "no string literal at start of " ++ Quoted.ofText line

theorem suffix_of_prepend {p : CodePoint} {r : Except Fault (List CodePoint × Text)}
    {value : List CodePoint} {rest t : Text} (h : prepend p r = .ok (value, rest))
    (ht : ∀ v, r = .ok (v, rest) → rest <:+ t) : rest <:+ t := by
  match r with
  | .error _ => cases h
  | .ok (v, _) =>
    cases h
    exact ht v rfl

/-- What follows a literal is a suffix. -/
theorem suffix_of_body {o : Opening} {t rest : Text} {value : List CodePoint}
    (h : body o t = .ok (value, rest)) : rest <:+ t := by
  fun_induction body o t generalizing value with
  | case1 => cases h
  | case2 => cases h; exact List.nil_suffix
  | case3 r ih =>
    exact suffix_of_prepend h fun v hv =>
      ((ih hv).trans (List.suffix_cons _ _)).trans (List.suffix_cons _ _)
  | case4 => cases h; exact List.suffix_cons _ _
  | case5 => cases h
  | case6 c r _ _ p rest' hread ih =>
    exact suffix_of_prepend h fun v hv =>
      ((ih hv).trans (Escape.suffix_of_read hread)).trans (List.suffix_cons _ _)
  | case7 c r _ _ ih =>
    exact suffix_of_prepend h fun v hv => (ih hv).trans (List.suffix_cons _ _)

theorem length_of_opening {o : Opening} {t rest : Text} (h : Opening.read? t = some (o, rest)) :
    rest.length < t.length := by
  unfold Opening.read? at h
  split at h
  · cases h
  · split at h
    · cases h
      exact Nat.lt_succ_self _
    · split at h
      · split at h
        · cases h
        · obtain ⟨q, _, hq⟩ := Option.map_eq_some_iff.1 h
          cases hq
          simp only [List.length_cons]
          omega
      · cases h

/-- A literal that was read is some beginning of the line. -/
theorem raw_of_read? {line : Text} {l : Literal} (h : read? line = some (.ok l)) :
    l.raw ≠ [] ∧ l.raw <+: line := by
  unfold read? at h
  obtain ⟨⟨opening, inner⟩, hopen, hread⟩ := Option.map_eq_some_iff.1 h
  have shorter := length_of_opening hopen
  simp only at hread
  split at hread
  · cases hread
  · rename_i hbody
    have behind := (suffix_of_body hbody).length_le
    cases hread
    refine ⟨?_, List.take_prefix _ _⟩
    intro hnil
    have := congrArg List.length hnil
    simp only [List.length_take, List.length_nil] at this
    omega

end Literal

end ScriptLexer
