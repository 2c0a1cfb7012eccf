import ScriptLexer.Proofs.Lexeme.Boundary
import ScriptLexer.Proofs.Session.Line
import ScriptLexer.Proofs.Text.Weave
import ScriptLexer.Tokenize

/-!
# Tokens printed and read again

The tokens of a line are printed by their texts, with blanks between each two of them and perhaps
around them.  Reading the printed line gives the same tokens.

The run on the printed line follows the run on the original line token by token.  `Cursor.Respaced`
relates the cursors of the two runs: they differ only in what is left of the line, which for the
printed one is the texts of the tokens to come.
-/

namespace ScriptLexer

namespace Cursor

variable {r : Rules} {c c' : Cursor}

/-- The cursor `c'` stands where `c` does, but in front of the printed tokens `ts`. -/
structure Respaced (ts : List Token) (c c' : Cursor) : Prop where
  lineNumber : c'.lineNumber = c.lineNumber
  pendingStart : c'.pendingStart = c.pendingStart
  mode : c'.mode = .outside
  rest : Text.Spaced (ts.map fun t => t.text) c'.rest

lemma solid_of_scan_eq_some {t : Token} (htable : r.table.Blankless)
    (h : (scan r c).found = .ok (some t)) : t.text.Solid := by
  obtain ⟨code, l, -, -, -, hread, rfl, -⟩ := scan_eq_some h
  exact Lexeme.solid_of_read htable hread

/-- A token is found again in front of a break, and what is left is behind the break. -/
lemma scan_of_breaks {t : Token} {rest : Text} (htable : r.table.Blankless)
    (h : (scan r c).found = .ok (some t)) (hline : c'.lineNumber = c.lineNumber)
    (hstart : c'.pendingStart = c.pendingStart) (hmode : c'.mode = .outside)
    (hrest : c'.rest = t.text ++ rest) (hbreaks : rest.Breaks) :
    (scan r c').found = .ok (some t) ∧
      (scan r c').cursor = { c' with rest := Text.trimStart rest, pendingStart := false } := by
  obtain ⟨code, l, hskip, hne, hdir, hread, rfl, -⟩ := scan_eq_some h
  obtain ⟨htext, hbegin⟩ := Lexeme.text_of_read hread
  -- the text of the token is that of the lexeme
  change c'.rest = l.text ++ rest at hrest
  have hfront : Comment.front c'.rest = .code := by
    rw [hrest]
    exact Comment.front_append_of_breaks (Comment.front_of_skip hskip hne) htext hbegin hbreaks
  have hdir' : isDirective r c'.rest = false := by
    rw [hrest, isDirective_append htext hbegin]
    exact hdir
  have hread' : Lexeme.read r.table r.options.caselessOperators c'.rest = .ok l := by
    rw [hrest]
    exact Lexeme.read_append_of_breaks htable hread hbreaks
  obtain ⟨hfound, hcursor⟩ := scan_of_read hmode hfront hdir' hread'
  constructor
  · have htoken : c'.token r l = (c.behindComments code).token r l := by
      simp only [token, behindComments, hline, hstart]
    rw [hfound, htoken]
  · rw [hcursor]
    simp only [behind, hrest, List.drop_left]

/-- One step of the run on the printed line. -/
lemma Respaced.scan {t : Token} {ts : List Token} (htable : r.table.Blankless)
    (hrel : Respaced (t :: ts) c c') (hsolid : ∀ t ∈ ts, t.text.Solid)
    (h : (scan r c).found = .ok (some t)) :
    (scan r c').found = .ok (some t) ∧ Respaced ts (scan r c).cursor (scan r c').cursor := by
  have hpieces : ∀ piece ∈ ts.map (fun t => t.text), Text.Solid piece := by
    simpa using hsolid
  obtain ⟨rest, hrest, hbreaks, hspaced⟩ := Text.Spaced.behind hrel.rest hpieces
  obtain ⟨hfound, hcursor⟩ :=
    scan_of_breaks htable h hrel.lineNumber hrel.pendingStart hrel.mode hrest hbreaks
  obtain ⟨code, l, -, -, -, -, -, hbehind⟩ := scan_eq_some h
  refine ⟨hfound, ?_⟩
  rw [hcursor, hbehind]
  exact ⟨hrel.lineNumber, rfl, hrel.mode, hspaced⟩

end Cursor

namespace Session

lemma solid_of_reads {s after : Session} {ts : List Token} (h : Reads s ts after)
    (htable : s.rules.table.Blankless) : ∀ t ∈ ts, t.text.Solid := by
  induction h with
  | done _ => simp
  | @token s next after t ts hnext _ ih =>
    obtain ⟨hscan, -, hrules⟩ := nextFromLine_eq_ok hnext
    have hfirst : t.text.Solid := Cursor.solid_of_scan_eq_some htable hscan
    rw [hrules] at ih
    exact List.forall_mem_cons.2 ⟨hfirst, ih htable⟩

/-- The run on the printed line gives the same tokens. -/
lemma reads_of_respaced {s s' after : Session} {ts : List Token} (h : Reads s ts after)
    (htable : s.rules.table.Blankless) (hrules : s'.rules = s.rules)
    (hrel : Cursor.Respaced ts s.cursor s'.cursor) : ∃ after', Reads s' ts after' := by
  induction h generalizing s' with
  | @done s after _ =>
    have hscan := Cursor.scan_of_nil (r := s'.rules) hrel.rest.eq_nil
    obtain ⟨after', hnext, -, -⟩ := nextFromLine_of_scan hscan
    exact ⟨after', Reads.done hnext⟩
  | @token s next after t ts hnext hreads ih =>
    obtain ⟨hscan, hcursor, hrules_next⟩ := nextFromLine_eq_ok hnext
    have htable_next : next.rules.table.Blankless := by
      rw [hrules_next]
      exact htable
    obtain ⟨hscan', hrel'⟩ :=
      Cursor.Respaced.scan htable hrel (solid_of_reads hreads htable_next) hscan
    -- the other session takes the same step, by the same rules
    rw [← hrules] at hscan'
    obtain ⟨next', hnext', hcursor', hrules_next'⟩ := nextFromLine_of_scan hscan'
    have hrules_same : next'.rules = next.rules := by
      rw [hrules_next', hrules, hrules_next]
    have hrel_next : Cursor.Respaced ts next.cursor next'.cursor := by
      rw [hcursor, hcursor', hrules]
      exact hrel'
    obtain ⟨after', hreads'⟩ := ih htable_next hrules_same hrel_next
    exact ⟨after', Reads.token hnext' hreads'⟩

end Session

/-! ## Single lines -/

/-- The session in which a single line is read. -/
def lineSession (line : Text) (options : Options) : Session where
  file := namelessSource
  options := options
  table := Table.standard
  input := none
  cursor := { rest := Text.trim line, lineNumber := 1, pendingStart := true }
  log := [.tableBuilt]

lemma tokenizeLine_eq_ok_iff {line : Text} {options : Options} {ts : List Token} :
    (tokenizeLine line options).result = .ok ts ↔
      ∃ after, (lineSession line options).Reads ts after := by
  have hresult : (tokenizeLine line options).result = (lineSession line options).drainLine.1 := rfl
  rw [hresult]
  constructor
  · intro h
    exact ⟨_, Session.drainLine_eq_ok_iff.1 (Prod.ext h rfl)⟩
  · rintro ⟨after, h⟩
    rw [Session.drainLine_eq_ok_iff.2 h]

/-- **Printing and reading again.**  If a line is read as the tokens `ts`, the same tokens are read
from their texts with any blanks around them, of which there is at least one between two tokens. -/
theorem tokenizeLine_weave {line : Text} {options : Options} {ts : List Token} {gaps : List Text}
    (h : (tokenizeLine line options).result = .ok ts) (hlength : gaps.length = ts.length + 1)
    (hblank : ∀ gap ∈ gaps, ∀ c ∈ gap, isBlank c = true)
    (hinner : ∀ gap ∈ gaps.tail.dropLast, gap ≠ []) :
    (tokenizeLine (Text.weave gaps (ts.map fun t => t.text)) options).result = .ok ts := by
  obtain ⟨after, hreads⟩ := tokenizeLine_eq_ok_iff.1 h
  have htable : (lineSession line options).rules.table.Blankless := Table.blankless_standard
  have hsolid : ∀ piece ∈ ts.map (fun t => t.text), Text.Solid piece := by
    simpa using Session.solid_of_reads hreads htable
  have hspaced := Text.spaced_trim_weave (by simpa using hlength) hblank hinner hsolid
  exact tokenizeLine_eq_ok_iff.2
    (Session.reads_of_respaced hreads htable rfl ⟨rfl, rfl, rfl, hspaced⟩)

/-- A number in front of a range, a string, and operators that could be halves of comment marks. -/
theorem tokenizeLine_weave_range :
    ∃ (ts : List Token) (gaps : List Text),
      (tokenizeLine "1../'a'/**/*".toList {}).result = .ok ts ∧
      gaps.length = ts.length + 1 ∧ (∀ gap ∈ gaps, ∀ c ∈ gap, isBlank c = true) ∧
      (∀ gap ∈ gaps.tail.dropLast, gap ≠ []) ∧
      Text.weave gaps (ts.map fun t => t.text) = "\t1 .. /  'a' *".toList ∧
      (tokenizeLine "\t1 .. /  'a' *".toList {}).result = .ok ts := by
  let place : Location := ⟨namelessSource, 1⟩
  let ts : List Token :=
    [{ kind := .intLiteral, text := "1".toList, location := place, startsLine := true },
      { kind := .operator .range, text := "..".toList, location := place },
      { kind := .operator .divide, text := "/".toList, location := place },
      { kind := .stringLiteral, text := "'a'".toList, value := [97], location := place },
      { kind := .operator .multiply, text := "*".toList, location := place }]
  let gaps : List Text :=
    ["\t".toList, " ".toList, " ".toList, "  ".toList, " ".toList, []]
  have hline : (tokenizeLine "1../'a'/**/*".toList {}).result = .ok ts := by decide +kernel
  have hblank : ∀ gap ∈ gaps, ∀ c ∈ gap, isBlank c = true := by
    have hall : (gaps.all fun gap => gap.all isBlank) = true := by decide
    simpa only [List.all_eq_true] using hall
  have hinner : ∀ gap ∈ gaps.tail.dropLast, gap ≠ [] := by decide
  exact ⟨ts, gaps, hline, rfl, hblank, hinner, rfl, tokenizeLine_weave hline rfl hblank hinner⟩

end ScriptLexer
