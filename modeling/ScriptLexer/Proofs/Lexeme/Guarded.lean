import Mathlib.Data.List.TakeWhile
import ScriptLexer.Lexeme
import ScriptLexer.Proofs.Table.Lookup

/-!
# Lexemes, with every assumption checked

Some operations have no result on some arguments: no literal is read where none begins, no number on
an empty line and no integer from other things than digits, and not every number is a code point.
And a loop may fail to end.  In a *guarded* run such a thing is a breach, which is not a fault of the
source: it would be one of the program.  Here literals and lexemes are read in this way, each loop
with a bound on its rounds.

A guarded run without a breach gives what the plain one gives.  The main statement is that there is
never a breach, if the bound is the length of the line (`Lexeme.readGuarded_eq`).
-/

namespace ScriptLexer

/-- What would be wrong with a run, whatever its source. -/
inductive Breach where
  /-- A loop has used up its rounds. -/
  | unfinished
  /-- A literal is read where none begins. -/
  | noLiteral
  /-- A number is looked for on an empty line. -/
  | noNumber
  /-- A text without digits, or with something else in it, is taken for an integer. -/
  | noInteger
  /-- A number beyond the last code point is taken for one. -/
  | noCodePoint
  /-- A nested comment is closed more often than it was opened. -/
  | negativeDepth
  /-- The text of a token does not stand at the start of the line from which it is cut off. -/
  | notAtStart
deriving DecidableEq, Repr

/-- The result of a guarded run. -/
abbrev Guarded (α : Type) := Except Breach α

/-- A result that may not exist. -/
def Guarded.ofOption {α : Type} (breach : Breach) : Option α → Guarded α
  | some a => .ok a
  | none => .error breach

/-- The integer that a text denotes in a base, if the text is nothing but digits. -/
def Numeral.integer? (base : Nat) (t : Text) : Option Nat :=
  if !t.isEmpty && t.all (isDigitOf base) then some (value base t) else none

/-- The code point with the given number. -/
def CodePoint.ofNat? (n : Nat) : Option CodePoint :=
  if h : n < 0x110000 then some ⟨n, h⟩ else none

/-! ## Escape sequences -/

namespace Escape

/-- Reads a number in the given form, guarded. -/
def readNumericGuarded (form : NumericForm) (t : Text) :
    Guarded (Except Fault (CodePoint × Text)) :=
  let source := form.fromIntroducer t
  let digits := form.digits source
  if digits = [] then .ok (.error (.noDigits form))
  else
    (Guarded.ofOption .noInteger (Numeral.integer? form.base digits)).bind fun value =>
      if 0x10FFFF < value then .ok (.error (.tooLarge form value))
      else
        (Guarded.ofOption .noCodePoint (CodePoint.ofNat? value)).map fun p =>
          .ok (p, source.drop digits.length)

/-- Reads an escape sequence, guarded. -/
def readGuarded : Text → Guarded (Except Fault (CodePoint × Text))
  | [] => .ok (.error .endOfLine)
  | c :: r =>
    match named.lookup c with
    | some meaning => .ok (.ok (CodePoint.ofChar meaning, r))
    | none =>
      match NumericForm.ofIntroducer? c with
      | some form => readNumericGuarded form (c :: r)
      | none => .ok (.error (.unknown c))

/-- The digits of a form denote an integer. -/
lemma integer?_digits {form : NumericForm} {t : Text} (hne : form.digits t ≠ []) :
    Numeral.integer? form.base (form.digits t) =
      some (Numeral.value form.base (form.digits t)) := by
  have hall : (form.digits t).all (Numeral.isDigitOf form.base) = true :=
    List.all_eq_true.2 fun _ hc => List.mem_takeWhile_imp hc
  have hsome : (form.digits t).isEmpty = false := List.isEmpty_eq_false_iff.2 hne
  rw [Numeral.integer?, hall, hsome]
  rfl

lemma readNumericGuarded_eq (form : NumericForm) (t : Text) :
    readNumericGuarded form t = .ok (readNumeric form t) := by
  unfold readNumericGuarded readNumeric
  dsimp only
  split_ifs with hnil hsmall
  · rfl
  · rw [integer?_digits hnil]
    simp only [Guarded.ofOption, Except.bind, CodePoint.ofNat?]
    rw [if_neg (by omega), dif_pos hsmall]
    rfl
  · rw [integer?_digits hnil]
    simp only [Guarded.ofOption, Except.bind]
    rw [if_pos (by omega)]

lemma readGuarded_eq (t : Text) : readGuarded t = .ok (read t) := by
  cases t with
  | nil => rfl
  | cons c r =>
    rw [readGuarded, read]
    cases named.lookup c with
    | some meaning => rfl
    | none =>
      cases NumericForm.ofIntroducer? c with
      | some form => exact readNumericGuarded_eq form (c :: r)
      | none => rfl

end Escape

/-! ## Literals -/

namespace Literal

/-- Reads what follows the opening of a literal, guarded. -/
def bodyGuarded (o : Opening) : (rounds : Nat) → Text →
    Guarded (Except Fault (List CodePoint × Text))
  | 0, _ => .error .unfinished
  | _ + 1, [] => .ok (.error (.unterminated o.quote))
  | rounds + 1, c :: r =>
    if c = o.quote.char then
      match r with
      | [] => .ok (.ok ([], []))
      | d :: rest =>
        if d = o.quote.char then (bodyGuarded o rounds rest).map (prepend (CodePoint.ofChar c))
        else .ok (.ok ([], d :: rest))
    else if c = '\\' ∧ o.verbatim = false then
      (Escape.readGuarded r).bind fun
        | .error fault => .ok (.error (.escape fault))
        | .ok (p, rest) => (bodyGuarded o rounds rest).map (prepend p)
    else (bodyGuarded o rounds r).map (prepend (CodePoint.ofChar c))

/-- The literal at the start of a line, from what is read behind its opening. -/
def ofBody (line : Text) (o : Opening) :
    Except Fault (List CodePoint × Text) → Except Fault Literal
  | .error fault => .error fault
  | .ok (value, rest) =>
    .ok { raw := line.take (line.length - rest.length), value, quote := o.quote,
          verbatim := o.verbatim }

lemma read?_eq (line : Text) :
    read? line = (Opening.read? line).map fun (o, inner) => ofBody line o (body o inner) := rfl

/-- Reads the literal at the start of a line, guarded. -/
def readGuarded (rounds : Nat) (line : Text) : Guarded (Except Fault Literal) :=
  (Guarded.ofOption .noLiteral (Opening.read? line)).bind fun (o, inner) =>
    (bodyGuarded o rounds inner).map (ofBody line o)

/-- Every round takes something off the text. -/
lemma bodyGuarded_eq {o : Opening} {rounds : Nat} {t : Text} (h : t.length < rounds) :
    bodyGuarded o rounds t = .ok (body o t) := by
  induction rounds generalizing t with
  | zero => omega
  | succ rounds ih =>
    have hlater : ∀ {rest : Text} (p : CodePoint), rest.length < rounds →
        (bodyGuarded o rounds rest).map (prepend p) = .ok (prepend p (body o rest)) := by
      intro rest p hrest
      rw [ih hrest]
      rfl
    rw [bodyGuarded.eq_def]
    fun_cases body o t with
    | case1 => rfl
    | case2 => exact if_pos rfl
    | case3 rest =>
      simp only [List.length_cons] at h
      dsimp only
      rw [if_pos rfl, if_pos rfl, hlater _ (by omega)]
    | case4 d rest hd =>
      dsimp only
      rw [if_pos rfl, if_neg hd]
    | case5 c r hc hescape fault hread =>
      dsimp only
      rw [if_neg hc, if_pos hescape, Escape.readGuarded_eq, hread]
      rfl
    | case6 c r hc hescape p rest hread =>
      have hsuffix := (Escape.suffix_of_read hread).length_le
      simp only [List.length_cons] at h
      dsimp only
      rw [if_neg hc, if_pos hescape, Escape.readGuarded_eq, hread]
      exact hlater p (by omega)
    | case7 c r hc hescape =>
      simp only [List.length_cons] at h
      dsimp only
      rw [if_neg hc, if_neg hescape, hlater _ (by omega)]

lemma isSome_read? (line : Text) : (read? line).isSome = begins line := Option.isSome_map

lemma readGuarded_eq {rounds : Nat} {line : Text} {x : Except Fault Literal}
    (h : read? line = some x) (hrounds : line.length ≤ rounds) :
    readGuarded rounds line = .ok x := by
  rw [read?_eq] at h
  obtain ⟨⟨o, inner⟩, hopening, rfl⟩ := Option.map_eq_some_iff.1 h
  have hinner : inner.length < rounds := Nat.lt_of_lt_of_le (length_of_opening hopening) hrounds
  rw [readGuarded, hopening]
  change (bodyGuarded o rounds inner).map (ofBody line o) = _
  rw [bodyGuarded_eq hinner]
  rfl

end Literal

/-! ## Lexemes -/

/-- Cuts off the word at the start of a line; a keyword gets the text that the table has for it. -/
def Word.readSpelled? (table : Table) (line : Text) : Option Lexeme :=
  let name := Name.leading line
  if isReserved name then none
  else
    match table.keyword? name with
    | some k => some { kind := .keyword k, text := table.spelling (.keyword k) }
    | none => some { kind := .identifier, text := name }

/-- A name is a keyword only if the table spells it so. -/
lemma Word.readSpelled?_eq (table : Table) (line : Text) :
    readSpelled? table line = read? table line := by
  unfold readSpelled? read? kind
  dsimp only
  split_ifs
  · rfl
  · cases hkeyword : table.keyword? (Name.leading line) with
    | none => rfl
    | some k =>
      dsimp only
      rw [Table.spelling_of_keyword? hkeyword]

/-- Cuts off the lexeme at the start of a line, guarded. -/
def Lexeme.readGuarded (rounds : Nat) (table : Table) (caseless : Bool) (line : Text) :
    Guarded (Except Fault Lexeme) :=
  if Literal.begins line then
    (Literal.readGuarded rounds line).map fun
      | .ok l => .ok { kind := .stringLiteral, text := l.raw, value := l.value }
      | .error fault => .error (.literal fault line)
  else if Number.begins line then
    (Guarded.ofOption .noNumber (Number.read? line)).map .ok
  else if Name.begins line then
    match Word.readSpelled? table line with
    | some l => .ok (.ok l)
    | none => .ok (.error (.reservedName (Name.leading line)))
  else
    match Symbol.read? table caseless line with
    | some l => .ok (.ok l)
    | none => .ok (.error (.noToken line))

/-- **There is no breach on any line.** -/
lemma Lexeme.readGuarded_eq {rounds : Nat} {line : Text} (table : Table) (caseless : Bool)
    (h : line.length ≤ rounds) :
    readGuarded rounds table caseless line = .ok (read table caseless line) := by
  unfold readGuarded read
  cases hliteral : Literal.read? line with
  | some x =>
    have hbegins : Literal.begins line = true := by
      rw [← Literal.isSome_read?, hliteral]
      rfl
    rw [if_pos hbegins, Literal.readGuarded_eq hliteral h]
    cases x <;> rfl
  | none =>
    have hbegins : ¬ Literal.begins line = true := by
      rw [← Literal.isSome_read?, hliteral]
      exact Bool.false_ne_true
    rw [if_neg hbegins, Word.readSpelled?_eq]
    dsimp only
    split_ifs with hnumber hname
    · have hne : line ≠ [] := by
        rintro rfl
        cases hnumber
      rw [Number.read?, if_neg hne]
      rfl
    · cases Word.read? table line <;> rfl
    · cases Symbol.read? table caseless line <;> rfl

end ScriptLexer
