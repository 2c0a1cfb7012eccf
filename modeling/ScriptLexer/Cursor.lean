import ScriptLexer.Event
import ScriptLexer.Lexeme

/-!
# The cursor on a line

A cursor is what is left of the line being read, with its number, the comment mode there, and
whether the next token is the first of its line.  Scanning passes over comments, cuts off one lexeme
and drops the blanks behind it.

A fault leaves the cursor at the faulty lexeme, comments in front of it gone.  Only a stray closing
mark leaves the line as it was, though the comment mode is the one reached.
-/

namespace ScriptLexer

/-- What scanning depends on and never changes. -/
structure Rules where
  /-- The name of the source. -/
  file : Text
  /-- Whether lines come from a stream, so that they are counted and may hold directives. -/
  streaming : Bool
  /-- The options in effect. -/
  options : Options
  /-- The spellings in use. -/
  table : Table

/-- A place on a line. -/
structure Cursor where
  /-- What is left of the line. -/
  rest : Text := []
  /-- The number of the line, zero before the first. -/
  lineNumber : Nat := 0
  /-- Whether the next token is the first of its line. -/
  pendingStart : Bool := false
  /-- The comment mode. -/
  mode : Comment.Mode := .outside
deriving DecidableEq, Repr

/-- The result of scanning for one token. -/
structure Scan where
  /-- The token, none if the line holds no more, or the fault in its place. -/
  found : Except Fault (Option Token)
  /-- The cursor behind it. -/
  cursor : Cursor
  /-- What happened on the way, in order. -/
  events : List Event

/-- The character that begins a directive. -/
def directiveMark : Char := '#'

namespace Cursor

/-- The cursor at the start of a new line. -/
def start (c : Cursor) (line : Text) : Cursor :=
  { c with rest := Text.trim line, lineNumber := c.lineNumber + 1, pendingStart := true }

/-- The place of the cursor, told only if lines are counted. -/
def location (c : Cursor) (r : Rules) : Option Location :=
  if r.streaming then some ⟨r.file, c.lineNumber⟩ else none

/-- A lexeme as the token at the cursor.  Before the first line tokens count as being on it. -/
def token (c : Cursor) (r : Rules) (l : Lexeme) : Token :=
  { l with
    location := ⟨r.file, max c.lineNumber 1⟩
    startsLine := c.pendingStart || l.kind == .operator .rightCurl }

/-- The cursor behind a lexeme and the blanks that follow it. -/
def behind (c : Cursor) (l : Lexeme) : Cursor :=
  { c with rest := Text.trimStart (c.rest.drop l.text.length), pendingStart := false }

/-- Whether text outside comments is a directive, which ends the line. -/
def isDirective (r : Rules) (line : Text) : Bool :=
  r.streaming && r.options.skipDirectives && line.head? == some directiveMark

/-- Scans the text of the script in front of which the cursor stands. -/
def scanCode (r : Rules) (c : Cursor) : Scan :=
  if c.rest = [] then ⟨.ok none, c, []⟩
  else if isDirective r c.rest then
    ⟨.ok none, { c with rest := [] }, [.directiveSkipped ⟨r.file, c.lineNumber⟩ c.rest]⟩
  else
    match Lexeme.read r.table r.options.caselessOperators c.rest with
    | .ok l => ⟨.ok (some (c.token r l)), c.behind l, []⟩
    | .error fault => ⟨.error fault, c, []⟩

/-- Scans for the next token of the line. -/
def scan (r : Rules) (c : Cursor) : Scan :=
  let skipped := Comment.skip c.mode c.rest
  let events := skipped.changes.map fun (old, new) => Event.modeChanged old new
  match skipped.outcome with
  | .stray form line => ⟨.error (.strayClose form line), { c with mode := skipped.mode }, events⟩
  | .code rest =>
    let inner := scanCode r { c with rest, mode := skipped.mode }
    { inner with events := events ++ inner.events }

theorem length_behind_lt {c : Cursor} {l : Lexeme} (hne : l.text ≠ []) (hl : l.text <+: c.rest) :
    (c.behind l).rest.length < c.rest.length := by
  have shorter := Text.length_trimStart_le (c.rest.drop l.text.length)
  have some : 0 < l.text.length := List.length_pos_iff.2 hne
  have fits := hl.length_le
  simp only [behind]
  simp only [List.length_drop] at shorter
  omega

theorem length_of_scanCode {r : Rules} {c : Cursor} {t : Token}
    (h : (scanCode r c).found = .ok (some t)) :
    (scanCode r c).cursor.rest.length < c.rest.length := by
  unfold scanCode at h ⊢
  split
  · simp_all
  · split
    · simp_all
    · split
      · rename_i hl
        obtain ⟨hne, hbegin⟩ := Lexeme.text_of_read hl
        exact length_behind_lt hne hbegin
      · simp_all

/-- A token takes something off the line. -/
theorem length_of_scan {r : Rules} {c : Cursor} {t : Token} (h : (scan r c).found = .ok (some t)) :
    (scan r c).cursor.rest.length < c.rest.length := by
  unfold scan at h ⊢
  simp only at h ⊢
  split
  · rename_i hs
    simp [hs] at h
  · rename_i rest hs
    simp only [hs] at h
    exact Nat.lt_of_lt_of_le (length_of_scanCode h) (Comment.length_of_skip hs)

end Cursor

end ScriptLexer
