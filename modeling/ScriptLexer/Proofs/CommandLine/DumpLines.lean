import ScriptLexer.Proofs.CommandLine.Outcome
import ScriptLexer.Proofs.Session.LineFeed

/-!
# The lines of the dump

Each token is written with a line feed behind it, and no line feed in its text is left out.  So the dump has
one line for each token, and one more for each line feed in the text of a token (`count_lineFeed_dump`).
Only a string literal of a line given as an argument can hold one; for a file, and for a line without a
line feed, there are as many lines as tokens.
-/

namespace ScriptLexer.CommandLine

variable {shell : Shell} {files : FileSystem} {environment : Options.Environment} {a : Arguments}

/-! ## A run that ends well -/

lemma Problem.exitCode_ne_success (p : Problem) : p.exitCode ≠ .success := by
  cases p <;> exact nofun

/-- A run with a problem to tell does not end well. -/
lemma ending_report_ne_success (verbose : Bool) (p : Problem) :
    (report shell verbose p).ending ≠ .exit .success := by
  rcases ending_report shell verbose p with h | ⟨fault, h⟩ <;> rw [h]
  · exact fun hcode => p.exitCode_ne_success (Ending.exit.inj hcode)
  · exact nofun

/-- A run that reads and ends well has written all tokens. -/
lemma exists_tokens_of_success
    (h : (run shell files environment (.accepted a)).ending = .exit .success) :
    ∃ j ts, a.job = .ok j ∧ (tokenize files (chosenOptions environment a) j).result = .ok ts ∧
      (dump shell a ts).fault = none ∧
      (run shell files environment (.accepted a)).stdout = (dump shell a ts).text := by
  cases hjob : a.job with
  | error refusal =>
    simp only [run, hjob] at h
    cases h
  | ok j =>
    rw [run_of_job environment hjob] at h ⊢
    refine ⟨j, ?_⟩
    cases hresult : (tokenize files (chosenOptions environment a) j).result with
    | error failure =>
      rw [output_of_failure hresult] at h
      exact absurd h (ending_report_ne_success a.verbose (.ofFailure failure))
    | ok ts =>
      cases hdump : (dump shell a ts).fault with
      | some fault =>
        rw [output_of_writeFault hresult hdump] at h
        exact absurd h (ending_report_ne_success a.verbose (.ofWriteFault fault))
      | none => exact ⟨ts, rfl, rfl, hdump, by rw [output_of_dump hresult hdump]⟩

/-! ## Counting line feeds -/

lemma count_flatten_lines (a : Arguments) (ts : List Token) :
    (ts.map (Dump.line a.markLines)).flatten.count '\n' =
      (ts.flatMap fun t => t.text).count '\n' := by
  induction ts with
  | nil => rfl
  | cons t ts ih =>
    rw [List.map_cons, List.flatten_cons, List.count_append, ih, Dump.count_line (by decide),
      List.flatMap_cons, List.count_append]

/-- The shell adds a line feed behind each line, and takes none away. -/
lemma count_dump (hshell : shell.Documented) {ts : List Token} (h : (dump shell a ts).fault = none) :
    (dump shell a ts).text.count '\n' = ts.length + (ts.flatMap fun t => t.text).count '\n' := by
  have hcount := (Shell.shown_of_writeAll hshell h).count_lineFeed
  rw [count_flatten_lines, List.length_map] at hcount
  exact hcount

lemma lineFeed_mem_line_iff {marks : Bool} {t : Token} :
    '\n' ∈ Dump.line marks t ↔ '\n' ∈ t.text := Dump.mem_line_iff (by decide)

/-- A token with a line feed is a string literal, and a piece of a line that was given. -/
lemma literal_of_lineFeed {options : Options} {j : Job} {ts : List Token} {t : Token}
    (h : (tokenize files options j).result = .ok ts) (ht : t ∈ ts) (hlineFeed : '\n' ∈ t.text) :
    t.kind = .stringLiteral ∧ ∃ line, j = .line line ∧ t.text <:+: line := by
  cases j with
  | line line =>
    exact ⟨(wellFormed_of_tokenizeLine h t ht).kind_of_lineFeed hlineFeed, line, rfl,
      infix_of_tokenizeLine h ht⟩
  | file path => exact absurd hlineFeed (lineFeed_notMem_of_tokenizeFile h ht)

/-- **One line for each token, but for line feeds in literals.**  Let the shell keep what is documented,
and let a run that reads tokens end well.  The line feeds in its dump are those in the texts of the tokens,
and one behind each token.  A token that is dumped with a line feed in it is a string literal, cut off a
line that was given as an argument.  There are as many line feeds as tokens exactly if no token is dumped
with one, and so it is when a file was read or the line holds none. -/
theorem count_lineFeed_dump (hshell : shell.Documented)
    (hsuccess : (run shell files environment (.accepted a)).ending = .exit .success) :
    ∃ j ts, a.job = .ok j ∧
      (tokenize files (chosenOptions environment a) j).result = .ok ts ∧
      (run shell files environment (.accepted a)).stdout.count '\n' =
        ts.length + (ts.flatMap fun t => t.text).count '\n' ∧
      (∀ t ∈ ts, '\n' ∈ Dump.line a.markLines t →
        t.kind = .stringLiteral ∧ ∃ line, j = .line line ∧ t.text <:+: line) ∧
      ((run shell files environment (.accepted a)).stdout.count '\n' = ts.length ↔
        ∀ t ∈ ts, '\n' ∉ Dump.line a.markLines t) ∧
      ((∀ line, j = .line line → '\n' ∉ line) →
        (run shell files environment (.accepted a)).stdout.count '\n' = ts.length) := by
  obtain ⟨j, ts, hjob, hts, hwritten, hdump⟩ := exists_tokens_of_success hsuccess
  have hcount := count_dump hshell hwritten
  rw [← hdump] at hcount
  have hliteral : ∀ t ∈ ts, '\n' ∈ Dump.line a.markLines t →
      t.kind = .stringLiteral ∧ ∃ line, j = .line line ∧ t.text <:+: line :=
    fun t ht hlineFeed => literal_of_lineFeed hts ht (lineFeed_mem_line_iff.1 hlineFeed)
  have hiff : (run shell files environment (.accepted a)).stdout.count '\n' = ts.length ↔
      ∀ t ∈ ts, '\n' ∉ Dump.line a.markLines t := by
    rw [hcount, Nat.add_eq_left, List.count_eq_zero]
    simp only [List.mem_flatMap, not_exists, not_and, lineFeed_mem_line_iff]
  refine ⟨j, ts, hjob, hts, hcount, hliteral, hiff, fun hline => hiff.2 fun t ht hlineFeed => ?_⟩
  obtain ⟨-, line, hj, hpiece⟩ := hliteral t ht hlineFeed
  exact hline line hj (hpiece.subset (lineFeed_mem_line_iff.1 hlineFeed))

/-- A file with a byte order mark, a line feed behind a carriage return, and a line feed in a comment:
three tokens are dumped, and the last of them ends the source. -/
theorem count_lineFeed_dump_file :
    ∃ (d : Directory) (args : List Text) (a : Arguments), Shell.piped.Documented ∧
      parse d.find args = .accepted a ∧
      (run .piped d.find [] (.accepted a)).ending = .exit .success ∧
      (run .piped d.find [] (.accepted a)).stdout.count '\n' = 3 ∧
      ∃ ts, (tokenize d.find {} (.file "a.mn".toList)).result = .ok ts ∧ ts.length = 3 := by
  let d : Directory :=
    [("a.mn".toList, some ([0xEF, 0xBB, 0xBF] ++ Utf8.encode "x\r\n/*\n*/ 'a'".toList))]
  let args : List Text := ["--mark-lines".toList, "a.mn".toList]
  let a : Arguments := { file := some "a.mn".toList, markLines := true }
  have hparse : parse d.find args = .accepted a := by decide +kernel
  have hsuccess : (run .piped d.find [] (.accepted a)).ending = .exit .success := by decide +kernel
  have hlines : (run .piped d.find [] (.accepted a)).stdout.count '\n' = 3 := by decide +kernel
  obtain ⟨j, ts, hjob, hts, -, -, -, hequal⟩ := count_lineFeed_dump Shell.documented_piped hsuccess
  obtain rfl : .file "a.mn".toList = j := Except.ok.inj hjob
  refine ⟨d, args, a, Shell.documented_piped, hparse, hsuccess, hlines, ts, hts, ?_⟩
  exact (hequal nofun).symm.trans hlines

/-- One literal with a line feed in it is dumped on two lines. -/
theorem dump_splits_literal :
    ∃ (d : Directory) (args : List Text) (a : Arguments) (line : Text) (t : Token) (out : Output),
      Shell.piped.Documented ∧ args = ["-e".toList, line] ∧ line = "'a\nb'".toList ∧
      parse d.find args = .accepted a ∧ a.job = .ok (.line line) ∧
      (tokenizeLine line (chosenOptions [] a)).result = .ok [t] ∧
      run .piped d.find [] (parse d.find args) = out ∧ out.ending = .exit .success ∧
      out.stdout = "1:STRING_LITERAL:'a\nb':\"a\\nb\"\n".toList ∧ out.stdout.count '\n' = 2 := by
  let line : Text := "'a\nb'".toList
  let args : List Text := ["-e".toList, line]
  let t : Token :=
    { kind := .stringLiteral, text := line, value := [0x61, 0x0A, 0x62],
      location := ⟨namelessSource, 1⟩, startsLine := true }
  refine ⟨[], args, { expression := some line }, line, t, _, Shell.documented_piped, rfl, rfl, rfl, rfl,
    ?_, rfl, ?_, ?_, ?_⟩
  all_goals decide +kernel

end ScriptLexer.CommandLine
