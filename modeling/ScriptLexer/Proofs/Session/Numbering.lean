import Mathlib.Data.List.Forall2
import ScriptLexer.Proofs.Session.Conservation
import ScriptLexer.Proofs.Session.Pulling
import ScriptLexer.Proofs.Session.Source

/-!
# Lines and their tokens

The tokens of a source stand in the order of its lines.  Each carries the number of the line that it
was cut off, counted from one, and the first of a line is marked as such.  The last token ends the
source.  Asked again, the session gives this token again and stays as it is, as long as the stream
goes on to give nothing.

`CutOff` says what the tokens of one line are, and `CutLines` the same of lines in a row.  That the
numbers do not decrease, and which tokens are marked, follows from these alone.
-/

namespace ScriptLexer

/-! ## The tokens of a line -/

/-- The tokens `ts` are cut off the line with the given number, which begins in the mode `m` and
ends in `m'`. -/
structure CutOff (r : Rules) (number : Nat) (m : Comment.Mode) (line : Text) (ts : List Token)
    (m' : Comment.Mode) : Prop where
  /-- The line is the texts of the tokens with gaps between them. -/
  woven : ∃ gaps : List Text, gaps.length = ts.length + 1 ∧
    Text.trim line = Text.weave gaps (ts.map fun t => t.text) ∧
    Comment.Gaps (r.streaming && r.options.skipDirectives) m gaps m'
  /-- All of them carry its number. -/
  place : ∀ t ∈ ts, t.location = ⟨r.file, number⟩
  /-- None of them ends the source. -/
  kind : ∀ t ∈ ts, t.kind ≠ .endOfFile
  /-- The first is marked, and every closing curly bracket. -/
  marks : ∀ before t behind, ts = before ++ t :: behind →
    (t.startsLine = true ↔ t.kind = .operator .rightCurl ∨ before = [])

lemma CutOff.line_eq {r : Rules} {number : Nat} {m m' : Comment.Mode} {line : Text}
    {ts : List Token} (h : CutOff r number m line ts m') {t : Token} (ht : t ∈ ts) :
    t.location.line = number := by
  rw [h.place t ht]

namespace Cursor

variable {r : Rules} {c last : Cursor} {ts : List Token}

/-- The place and the mark of a token, and that the mark is given once. -/
lemma place_of_scan {t : Token} (h : (scan r c).found = .ok (some t)) :
    t.location = ⟨r.file, max c.lineNumber 1⟩ ∧
      (t.startsLine = true ↔ t.kind = .operator .rightCurl ∨ c.pendingStart = true) ∧
      (scan r c).cursor.pendingStart = false := by
  obtain ⟨rest, l, -, -, -, -, rfl, hcursor⟩ := scan_eq_some h
  refine ⟨rfl, ?_, by rw [hcursor]; rfl⟩
  show (c.pendingStart || l.kind == .operator .rightCurl) = true ↔ _
  rw [Bool.or_eq_true, beq_iff_eq, or_comm]
  rfl

lemma Drains.location_eq (h : Drains r c ts last) :
    ∀ t ∈ ts, t.location = ⟨r.file, max c.lineNumber 1⟩ := by
  induction h with
  | done _ => simp
  | token hscan _ ih =>
    rw [lineNumber_scan] at ih
    exact List.forall_mem_cons.2 ⟨(place_of_scan hscan).1, ih⟩

lemma Drains.kind_ne (h : Drains r c ts last) : ∀ t ∈ ts, t.kind ≠ .endOfFile := by
  induction h with
  | done _ => simp
  | token hscan _ ih => exact List.forall_mem_cons.2 ⟨kind_ne_endOfFile hscan, ih⟩

/-- Only the first token takes the mark. -/
lemma Drains.startsLine_iff (h : Drains r c ts last) {before behind : List Token} {t : Token}
    (hts : ts = before ++ t :: behind) :
    t.startsLine = true ↔
      t.kind = .operator .rightCurl ∨ before = [] ∧ c.pendingStart = true := by
  induction h generalizing before with
  | done _ => simp at hts
  | @token c last first ts hscan _ ih =>
    obtain ⟨-, hmark, hpending⟩ := place_of_scan hscan
    cases before with
    | nil =>
      obtain ⟨rfl, -⟩ := List.cons.inj hts
      simpa using hmark
    | cons first' before =>
      obtain ⟨-, hrest⟩ := List.cons.inj hts
      rw [ih hrest, hpending]
      simp

/-- A line that is started and read to its end gives tokens that are cut off it. -/
lemma Drains.cutOff {line : Text} (h : Drains r (c.start line) ts last) :
    CutOff r (c.lineNumber + 1) c.mode line ts last.mode where
  woven := h.exists_gaps
  place := by
    intro t ht
    rw [h.location_eq t ht]
    have hpositive : max ((c.lineNumber + 1 : Nat) : Int) 1 = ((c.lineNumber + 1 : Nat) : Int) := by
      omega
    exact congrArg (Location.mk r.file) hpositive
  kind := h.kind_ne
  marks := by
    intro before t behind hts
    rw [h.startsLine_iff hts]
    simp [start]

end Cursor

/-! ## Lines in a row -/

/-- The tokens `cuts` are cut off lines in a row, of which the first has the number `n + 1`. -/
inductive CutLines (r : Rules) (marked : Bool) :
    Nat → Comment.Mode → List Text → List (List Token) → Comment.Mode → Prop
  /-- No line. -/
  | nil (n : Nat) (m : Comment.Mode) : CutLines r marked n m [] [] m
  /-- One line, then the others. -/
  | cons {n : Nat} {m m₁ m₂ : Comment.Mode} {line : Text} {lines : List Text} {ts : List Token}
      {cuts : List (List Token)} :
      CutOff r (n + 1) m (({ lineNumber := n } : Cursor).unmarked marked line) ts m₁ →
        CutLines r marked (n + 1) m₁ lines cuts m₂ →
          CutLines r marked n m (line :: lines) (ts :: cuts) m₂

namespace CutLines

variable {r : Rules} {marked : Bool} {n : Nat} {m m' : Comment.Mode} {lines : List Text}
  {cuts : List (List Token)}

lemma kind_ne (h : CutLines r marked n m lines cuts m') :
    ∀ t ∈ cuts.flatten, t.kind ≠ .endOfFile := by
  induction h with
  | nil => simp
  | cons hcut _ ih =>
    rw [List.flatten_cons]
    exact List.forall_mem_append.2 ⟨hcut.kind, ih⟩

/-- The numbers are those of the lines. -/
lemma line_bounds (h : CutLines r marked n m lines cuts m') :
    ∀ t ∈ cuts.flatten, n < t.location.line ∧ t.location.line ≤ n + lines.length := by
  induction h with
  | nil => simp
  | @cons n m m₁ m₂ line lines ts cuts hcut _ ih =>
    rw [List.flatten_cons, List.length_cons]
    refine List.forall_mem_append.2 ⟨fun t ht => ?_, fun t ht => ?_⟩
    · rw [hcut.line_eq ht]
      omega
    · obtain ⟨hlow, hhigh⟩ := ih t ht
      omega

/-- The numbers never decrease. -/
lemma pairwise (h : CutLines r marked n m lines cuts m') :
    cuts.flatten.Pairwise fun t t' => t.location.line ≤ t'.location.line := by
  induction h with
  | nil => simp
  | @cons n m m₁ m₂ line lines ts cuts hcut hlater ih =>
    rw [List.flatten_cons, List.pairwise_append]
    refine ⟨List.pairwise_of_forall_mem_list fun t ht t' ht' => ?_, ih, fun t ht t' ht' => ?_⟩
    · exact Int.le_of_eq ((hcut.line_eq ht).trans (hcut.line_eq ht').symm)
    · have hlow := (hlater.line_bounds t' ht').1
      rw [hcut.line_eq ht]
      omega

/-- A token is marked if no earlier one is of its line, and every closing curly bracket is. -/
lemma startsLine_iff (h : CutLines r marked n m lines cuts m') {before behind : List Token}
    {t : Token} (hts : cuts.flatten = before ++ t :: behind) :
    t.startsLine = true ↔
      t.kind = .operator .rightCurl ∨ ∀ t' ∈ before, t'.location.line ≠ t.location.line := by
  induction h generalizing before with
  | nil => simp at hts
  | @cons n m m₁ m₂ line lines ts cuts hcut hlater ih =>
    rw [List.flatten_cons] at hts
    -- a token of a later line has none of this line's number in front of it
    have hother : ∀ before', cuts.flatten = before' ++ t :: behind → before = ts ++ before' →
        (t.startsLine = true ↔
          t.kind = .operator .rightCurl ∨ ∀ t' ∈ before, t'.location.line ≠ t.location.line) := by
      rintro before' hrest rfl
      have hlow := (hlater.line_bounds t (by rw [hrest]; simp)).1
      rw [ih hrest, List.forall_mem_append, and_iff_right]
      intro t' ht'
      rw [hcut.line_eq ht']
      omega
    rcases List.append_eq_append_iff.1 hts with ⟨before', hbefore, hrest⟩ | ⟨ts', hline, hrest⟩
    · exact hother before' hrest hbefore
    · cases ts' with
      | nil => exact hother [] hrest.symm (by simpa using hline.symm)
      | cons t' ts' =>
        -- a token of this line has only such tokens in front of it
        obtain ⟨rfl, -⟩ := List.cons.inj hrest
        rw [hcut.marks before t ts' hline]
        refine or_congr_right ⟨?_, fun hnone => ?_⟩
        · rintro rfl
          simp
        · have hsame : ∀ t' ∈ before ++ t :: ts', t'.location.line = (n + 1 : Nat) :=
            fun t' ht' => hcut.line_eq (hline ▸ ht')
          refine List.eq_nil_iff_forall_not_mem.2 fun t' ht' => hnone t' ht' ?_
          rw [hsame t' (by simp [ht']), hsame t (by simp)]

end CutLines

/-- Reads without an error give lines, and tokens that are cut off these. -/
lemma Cursor.cutLines_of_exhaust {r : Rules} {marked : Bool} {c last : Cursor} {ts : List Token}
    {chunks : List Chunk} (hrest : drain r c = .ok ([], c))
    (h : exhaust r marked c chunks = .ok (ts, last)) :
    ∃ lines cuts, List.Forall₂ (fun chunk line => chunk.decode = .ok line)
        (Chunk.untilEnd chunks) lines ∧
      ts = cuts.flatten ∧ CutLines r marked c.lineNumber c.mode lines cuts last.mode ∧
      last.lineNumber = c.lineNumber + lines.length := by
  induction chunks generalizing c ts with
  | nil =>
    rw [exhaust_nil, hrest] at h
    obtain ⟨rfl, rfl⟩ := Prod.mk.inj (Except.ok.inj h)
    exact ⟨[], [], List.Forall₂.nil, rfl, CutLines.nil _ _, rfl⟩
  | cons chunk chunks ih =>
    rcases exhaust_cons_eq_ok h with ⟨hempty, hdrain⟩ |
      ⟨ts₁, c₁, line, ts₂, hchunk, hdrain, hline, -, -⟩
    · rw [hrest] at hdrain
      obtain ⟨rfl, rfl⟩ := Prod.mk.inj (Except.ok.inj hdrain)
      refine ⟨[], [], ?_, rfl, CutLines.nil _ _, rfl⟩
      rw [Chunk.untilEnd_cons_of_empty hempty]
      exact List.Forall₂.nil
    · rw [exhaust_cons_of_decode hrest hchunk hline] at h
      obtain ⟨ts₁, c₁, ts₂, hfirst, hlater, rfl⟩ := Reading.andThen_eq_ok h
      have hdrains := drain_eq_ok_iff.1 hfirst
      obtain ⟨lines, cuts, hlines, rfl, hcuts, hnumber⟩ := ih hdrains.drain_last hlater
      have hstart : c₁.lineNumber = c.lineNumber + 1 := hdrains.lineNumber_eq
      rw [hstart] at hcuts hnumber
      refine ⟨line :: lines, ts₁ :: cuts, ?_, rfl, CutLines.cons hdrains.cutOff hcuts, ?_⟩
      · rw [Chunk.untilEnd_cons_of_line hchunk]
        exact List.Forall₂.cons hline hlines
      · rw [hnumber, List.length_cons]
        omega

/-! ## The end of a source, met again -/

namespace Session

variable {s after : Session} {input : Input} {t : Token} {ts : List Token}

/-- The session with that many of the reads to come used up. -/
def afterReads (s : Session) (n : Nat) : Session :=
  { s with
    input := s.input.map fun input =>
      { input with stream := { input.stream with chunks := input.stream.chunks.drop n } } }

/-- The session stands at the end of its source, which the token `t` tells, and no read will give
anything more. -/
structure AtEnd (s : Session) (t : Token) : Prop where
  rests : s.cursor.scan s.rules = ⟨.ok none, s.cursor, []⟩
  finish : s.cursor.finish s.rules = .ok t
  stream : ∃ input, s.input = some input ∧ input.stream.isClosed = false ∧
    ∀ chunk ∈ input.stream.chunks, chunk.isEmpty = true

lemma AtEnd.of_alike {s' : Session} (h : AtEnd s t) (halike : Alike s s') : AtEnd s' t := by
  obtain ⟨log, rfl⟩ := halike
  exact ⟨h.rests, h.finish, h.stream⟩

lemma rules_afterReads (s : Session) (n : Nat) : (s.afterReads n).rules = s.rules := by
  simp [rules, afterReads]

/-- The token is given again, and nothing changes but the read that was used up. -/
lemma AtEnd.next (h : AtEnd s t) : s.next = (.ok t, s.afterReads 1) := by
  obtain ⟨input, hinput, hopen, hchunks⟩ := h.stream
  have hend : ∀ chunk ∈ input.stream.chunks.head?, chunk.isEmpty = true :=
    fun chunk hchunk => hchunks chunk (List.mem_of_mem_head? hchunk)
  have hpull : s.cursor.next s.rules input.marked input.stream.chunks =
      ⟨.ok t, s.cursor, input.stream.chunks.tail, []⟩ := by
    rw [Cursor.next_of_end (by rw [h.rests]) hend, h.rests, h.finish]
  unfold Session.next nextFromStream
  simp only [hinput, hopen, Bool.false_eq_true, if_false, hpull]
  simp only [Except.mapError, record, afterReads, hinput, Option.map_some, List.drop_one,
    List.reverse_nil, List.nil_append]

lemma AtEnd.afterReads (h : AtEnd s t) (n : Nat) : AtEnd (s.afterReads n) t := by
  obtain ⟨input, hinput, hopen, hchunks⟩ := h.stream
  refine ⟨?_, ?_, ?_⟩
  · rw [rules_afterReads]
    exact h.rests
  · rw [rules_afterReads]
    exact h.finish
  · refine ⟨{ input with stream := { input.stream with chunks := input.stream.chunks.drop n } },
      by simp only [Session.afterReads, hinput, Option.map_some], hopen, ?_⟩
    intro chunk hchunk
    exact hchunks chunk (List.mem_of_mem_drop hchunk)

/-- However often it is asked, the session gives the token that ends the source. -/
lemma AtEnd.pulls (h : AtEnd s t) (n : Nat) : Pulls s (List.replicate n t) (s.afterReads n) := by
  induction n generalizing s with
  | zero =>
    have hsame : s.afterReads 0 = s := by simp [Session.afterReads]
    rw [hsame]
    exact Pulls.nil s
  | succ n ih =>
    have hmore : (s.afterReads 1).afterReads n = s.afterReads (n + 1) := by
      simp [Session.afterReads, Function.comp_def]
    rw [List.replicate_succ, ← hmore]
    exact Pulls.cons h.next (ih (h.afterReads 1))

/-- A token of an open stream is the next one of the cursor. -/
lemma pull_of_next (hinput : s.input = some input) (hopen : input.stream.isClosed = false)
    (h : s.next = (.ok t, after)) :
    (s.cursor.next s.rules input.marked input.stream.chunks).found = .ok t ∧
      Alike (s.moved input (s.cursor.next s.rules input.marked input.stream.chunks).cursor
        (s.cursor.next s.rules input.marked input.stream.chunks).chunks) after := by
  obtain ⟨-, hafter⟩ := next_of_open hinput hopen
  rw [h] at hafter
  obtain ⟨input', hinput', hfound⟩ := next_eq_ok (by rw [h] : s.next.1 = .ok t)
  obtain rfl : input = input' := Option.some.inj (hinput.symm.trans hinput')
  rcases hfound with ⟨hclosed, -⟩ | ⟨-, hfound⟩
  · rw [hopen] at hclosed
    cases hclosed
  · exact ⟨hfound, hafter⟩

/-- A token that does not end the source leaves the end where it is. -/
lemma moved_of_next (hinput : s.input = some input) (hopen : input.stream.isClosed = false)
    (h : s.next = (.ok t, after)) (ht : t.kind ≠ .endOfFile) :
    ∃ cursor chunks, Alike (s.moved input cursor chunks) after ∧
      Chunk.fromEnd chunks = Chunk.fromEnd input.stream.chunks := by
  obtain ⟨hfound, hafter⟩ := pull_of_next hinput hopen h
  rcases Cursor.next_eq_ok hfound with ⟨line, -, -, hchunks⟩ | ⟨line, -, -, hfinish, -⟩
  · exact ⟨_, _, hafter, hchunks⟩
  · exact absurd (Cursor.kind_of_finish hfinish) ht

/-- The token that ends the source leaves the session at the end. -/
lemma atEnd_of_next (hinput : s.input = some input) (hopen : input.stream.isClosed = false)
    (hend : ∀ chunk ∈ Chunk.fromEnd input.stream.chunks, chunk.isEmpty = true)
    (h : s.next = (.ok t, after)) (ht : t.kind = .endOfFile) : AtEnd after t := by
  obtain ⟨hfound, hafter⟩ := pull_of_next hinput hopen h
  refine AtEnd.of_alike ?_ hafter
  rcases Cursor.next_eq_ok hfound with ⟨line, hscan, -, -⟩ |
    ⟨line, hscan, hcursor, hfinish, hchunks⟩
  · exact absurd ht (Cursor.kind_ne_endOfFile hscan)
  · rw [hcursor, hchunks]
    have hrules := moved_rules hinput (line.scan s.rules).cursor
      (Chunk.fromEnd input.stream.chunks).tail
    refine ⟨?_, ?_, ?_⟩
    · rw [hrules]
      exact Cursor.scan_scan_of_none hscan
    · rw [hrules]
      exact hfinish
    · refine ⟨_, rfl, hopen, fun chunk hchunk => hend chunk ?_⟩
      exact List.mem_of_mem_tail hchunk

/-- Reading all remaining tokens leaves the session at the end of its source. -/
lemma atEnd_of_collect (hinput : s.input = some input) (hopen : input.stream.isClosed = false)
    (hend : ∀ chunk ∈ Chunk.fromEnd input.stream.chunks, chunk.isEmpty = true)
    (h : s.collect = (.ok ts, after)) : ∃ front t, ts = front ++ [t] ∧ AtEnd after t := by
  fun_induction collect s generalizing ts after input with
  | case1 => simp at h
  | case2 s t next hnext ht =>
    simp only [Prod.mk.injEq, Except.ok.injEq] at h
    obtain ⟨rfl, rfl⟩ := h
    exact ⟨[], t, rfl, atEnd_of_next hinput hopen hend hnext ht⟩
  | case3 s t next hnext ht ts' last hlast ih =>
    simp only [Prod.mk.injEq, Except.ok.injEq] at h
    obtain ⟨rfl, rfl⟩ := h
    obtain ⟨cursor, chunks, ⟨log, rfl⟩, hchunks⟩ := moved_of_next hinput hopen hnext ht
    obtain ⟨front, t', rfl, hatEnd⟩ := ih rfl hopen (hchunks ▸ hend) hlast
    exact ⟨t :: front, t', rfl, hatEnd⟩
  | case4 => simp at h

/-! ## Whole sources -/

/-- A new session that gives all its tokens has an open stream. -/
lemma isClosed_of_collect (hinput : s.input = some input) (hnil : s.cursor.rest = [])
    (h : s.collect = (.ok ts, after)) : input.stream.isClosed = false := by
  refine Bool.eq_false_iff.2 fun hclosed => ?_
  have hfailed := collect_of_closed hinput hclosed hnil
  rw [h] at hfailed
  cases hfailed

/-- The token that ends a source of that many lines. -/
def endToken (file : Text) (lines : Nat) : Token where
  kind := .endOfFile
  text := endText
  location := ⟨file, max lines 1⟩
  startsLine := true

/-- All tokens of an open stream are cut off its lines, and then the source ends. -/
lemma cutLines_of_collect (hinput : s.input = some input) (hopen : input.stream.isClosed = false)
    (hcursor : s.cursor = {}) (h : s.collect.1 = .ok ts) :
    ∃ lines cuts, List.Forall₂ (fun chunk line => chunk.decode = .ok line)
        (Chunk.untilEnd input.stream.chunks) lines ∧
      CutLines s.rules input.marked 0 .outside lines cuts .outside ∧
      ts = cuts.flatten ++ [endToken s.rules.file lines.length] := by
  have hsource := collect_eq_exhaust hinput hopen
  rw [h, hcursor] at hsource
  have hfinish : (({} : Cursor).exhaust s.rules input.marked input.stream.chunks).finish s.rules =
      .ok ts := by
    cases hresult : (({} : Cursor).exhaust s.rules input.marked input.stream.chunks).finish
        s.rules with
    | error e =>
      rw [hresult] at hsource
      cases hsource
    | ok ts' =>
      rw [hresult] at hsource
      exact congrArg Except.ok (Except.ok.inj hsource).symm
  obtain ⟨ts', last, t, hexhaust, hmode, -⟩ := Reading.finish_eq_ok hfinish
  obtain ⟨lines, cuts, hlines, rfl, hcuts, hnumber⟩ :=
    Cursor.cutLines_of_exhaust (Cursor.drain_of_nil rfl) hexhaust
  refine ⟨lines, cuts, hlines, hmode ▸ hcuts, ?_⟩
  rw [hexhaust] at hfinish
  simp only [Reading.finish, Except.bind, Cursor.finish_of_outside hmode] at hfinish
  have hlast : last.lineNumber = lines.length := hnumber.trans (Nat.zero_add _)
  rw [hlast] at hfinish
  exact (Except.ok.inj hfinish).symm

/-- **Tokens and the lines they come from.**  Let a new session with a stream give all tokens of its
source.  These are the tokens of the lines, in order, and one more that ends the source.  Each token
is cut off the line of which it carries the number, counted from one, so the numbers never decrease;
the last token carries that of the last line, and one if there is no line.  A token is marked as the
first of its line if no earlier token has the number of its line; a closing curly bracket and the
end of the source are always marked.  If the stream goes on to give nothing, every further call for
the next token gives the last one again and changes nothing but that it uses up one read. -/
theorem tokenize_counts_lines {setup : Setup} {stream : Stream} {s after : Session}
    {ts : List Token} (hstream : setup.stream = some stream) (hcreate : create setup = .ok s)
    (h : s.tokenize = (.ok ts, after)) :
    ∃ (lines : List Text) (cuts : List (List Token)),
      List.Forall₂ (fun chunk line => chunk.decode = .ok line) (Chunk.untilEnd stream.chunks)
        lines ∧
      CutLines setup.rules (setup.mark = .mark .utf8) 0 .outside lines cuts .outside ∧
      ts = cuts.flatten ++ [endToken setup.sourceName lines.length] ∧
      (∀ t ∈ cuts.flatten, t.kind ≠ .endOfFile) ∧
      ts.Pairwise (fun t t' => t.location.line ≤ t'.location.line) ∧
      (∀ before t behind, ts = before ++ t :: behind →
        (t.startsLine = true ↔ t.kind = .operator .rightCurl ∨ t.kind = .endOfFile ∨
          ∀ t' ∈ before, t'.location.line ≠ t.location.line)) ∧
      ((∀ chunk ∈ Chunk.fromEnd stream.chunks, chunk.isEmpty = true) → ∀ n,
        Pulls after (List.replicate n (endToken setup.sourceName lines.length))
          (after.afterReads n)) := by
  obtain ⟨-, hinput, hrules, hcursor⟩ := create_eq_ok hstream hcreate
  obtain ⟨last, hcollect, hafter⟩ := collect_of_tokenize h
  have hopen := isClosed_of_collect hinput (by rw [hcursor]) hcollect
  obtain ⟨lines, cuts, hlines, hcuts, rfl⟩ :=
    cutLines_of_collect hinput hopen hcursor (congrArg Prod.fst hcollect)
  rw [hrules] at hcuts
  rw [hrules] at hcollect ⊢
  refine ⟨lines, cuts, hlines, hcuts, rfl, hcuts.kind_ne, ?_, ?_, ?_⟩
  · refine List.pairwise_append.2 ⟨hcuts.pairwise, List.pairwise_singleton _ _, ?_⟩
    intro t ht t' ht'
    obtain rfl := List.mem_singleton.1 ht'
    have hhigh := (hcuts.line_bounds t ht).2
    show t.location.line ≤ max (lines.length : Int) 1
    omega
  · intro before t behind hts
    rcases List.eq_nil_or_concat behind with rfl | ⟨behind, t', rfl⟩
    · -- the last token ends the source
      obtain ⟨-, hlast⟩ := List.append_inj' hts rfl
      obtain ⟨rfl, -⟩ := List.cons.inj hlast
      simp [endToken]
    · rw [List.concat_eq_append, ← List.cons_append, ← List.append_assoc] at hts
      obtain ⟨hflatten, -⟩ := List.append_inj' hts rfl
      have hkind : t.kind ≠ .endOfFile := hcuts.kind_ne t (by rw [hflatten]; simp)
      rw [hcuts.startsLine_iff hflatten]
      simp only [hkind, false_or]
  · intro hend n
    obtain ⟨front, t, hts, hatEnd⟩ := atEnd_of_collect hinput hopen hend hcollect
    have hlast : endToken setup.rules.file lines.length = t := by
      simpa using congrArg List.getLast? hts
    subst hlast
    exact (hatEnd.of_alike hafter).pulls n

/-- A marked source of five lines: a comment over three of them, a directive inside it, and a line
that begins behind the comment.  The stream tells its end twice. -/
theorem tokenize_counts_lines_comment :
    ∃ (setup : Setup) (stream : Stream) (s after : Session) (ts : List Token),
      setup.stream = some stream ∧ create setup = .ok s ∧ s.tokenize = (.ok ts, after) ∧
      ts.map (fun t => (t.text, t.location.line, t.startsLine)) =
        [("a".toList, 1, true), ("+".toList, 1, false), ("d".toList, 4, true),
          ("\x7d".toList, 4, true), ("e".toList, 5, true), (endText, 5, true)] ∧
      ts.Pairwise (fun t t' => t.location.line ≤ t'.location.line) ∧
      Pulls after (List.replicate 3 (endToken setup.sourceName 5)) (after.afterReads 3) := by
  let stream := Stream.ofReads [.text "\uFEFFa + /* b\n".toList, .text "\n".toList,
    .text "# c\n".toList, .text "*/ d \x7d\n".toList, .text "e".toList, .text [], .bytes []]
  let setup : Setup := { stream := some stream, mark := .mark .utf8 }
  obtain ⟨s, hcreate⟩ : ∃ s, create setup = .ok s := ⟨_, rfl⟩
  let token (kind : Kind) (text : Text) (line : Int) (startsLine : Bool) : Token :=
    { kind, text, location := ⟨namelessSource, line⟩, startsLine }
  let ts : List Token :=
    [token .identifier "a".toList 1 true, token (.operator .add) "+".toList 1 false,
      token .identifier "d".toList 4 true, token (.operator .rightCurl) "\x7d".toList 4 true,
      token .identifier "e".toList 5 true, endToken namelessSource 5]
  have hfound : s.tokenize.1 = .ok ts := by
    obtain rfl := Except.ok.inj hcreate
    decide +kernel
  have h : s.tokenize = (.ok ts, s.tokenize.2) := Prod.ext hfound rfl
  obtain ⟨lines, cuts, hlines, -, -, -, hordered, -, hlater⟩ := tokenize_counts_lines rfl hcreate h
  have hlength : lines.length = 5 := hlines.length_eq.symm.trans (by decide)
  have hpulls := hlater (by decide) 3
  rw [hlength] at hpulls
  exact ⟨setup, stream, s, s.tokenize.2, ts, rfl, hcreate, h, rfl, hordered, hpulls⟩

end Session

end ScriptLexer
