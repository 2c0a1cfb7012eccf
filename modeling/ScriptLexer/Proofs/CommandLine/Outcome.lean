import ScriptLexer.Proofs.CommandLine.Parser
import ScriptLexer.Proofs.CommandLine.Shell
import ScriptLexer.Proofs.Dump
import ScriptLexer.Proofs.Session.Guarded
import ScriptLexer.Proofs.Session.Respacing

/-!
# How a run of the program ends

A run refuses its arguments, answers a question about the program, or reads what the arguments name.
The reading gives tokens or an error of the source, whatever the bytes and the line are.  All tokens are
there before the first is dumped, and the lines of the dump are written one after the other.  So the dump
is whole, and no run ends with an internal error, unless a line cannot be written (`run_outcome`).

A shell without a terminal leaves control sequences out, so a literal that holds one is shown without it
(`run_stripped_dump`).
-/

namespace ScriptLexer

/-! ## What is read -/

lemma tokenizeLine_cases (line : Text) (options : Options) :
    (∃ ts, (tokenizeLine line options).result = .ok ts) ∨
      ∃ e, (tokenizeLine line options).result = .error (.lexical e) :=
  Session.drainLine_cases (lineSession line options)

lemma tokenizeFile_cases {files : FileSystem} {path : Text} {bytes : List UInt8}
    (h : files path = .ok bytes) (options : Options) :
    (∃ ts, (tokenizeFile files path options).result = .ok ts) ∨
      ∃ e, (tokenizeFile files path options).result = .error (.lexical e) := by
  have hopened : ∃ opened, OpenedFile.open files path = .ok opened := by
    unfold OpenedFile.open
    rw [h]
    exact ⟨_, rfl⟩
  obtain ⟨opened, hopened⟩ := hopened
  rcases tokenizeFile_of_opened hopened options with ⟨e, hresult, -⟩ |
    ⟨s, s', hcreate, halike, hresult, -⟩
  · exact Or.inr ⟨e, hresult⟩
  · obtain ⟨-, hinput, -, -⟩ := Session.create_eq_ok rfl hcreate
    obtain ⟨log, rfl⟩ := halike
    rw [hresult]
    rcases Session.tokenize_cases (s := { s with log }) hinput rfl with ⟨ts, t, htokens, -⟩ | herror
    · exact Or.inl ⟨ts ++ [t], htokens⟩
    · exact Or.inr herror

namespace CommandLine

variable {shell : Shell} {files : FileSystem} {environment : Options.Environment} {parsed : Parsed}
  {a : Arguments} {j : Job} {options : Options} {found : Run (List Token)}

/-- What there is to read is the line, or the file under the path that was checked. -/
lemma job_eq_ok (h : a.job = .ok j) :
    (∃ line, j = .line line) ∨ ∃ path, a.file = some path ∧ j = .file path := by
  unfold Arguments.job at h
  split at h
  · cases h
  · cases h
  · exact Or.inl ⟨_, (Except.ok.inj h).symm⟩
  · rename_i path hfile hexpression
    exact Or.inr ⟨path, hfile, (Except.ok.inj h).symm⟩

lemma tokenize_cases (hchecked : a.Checked files) (hjob : a.job = .ok j) (options : Options) :
    (∃ ts, (tokenize files options j).result = .ok ts) ∨
      ∃ e, (tokenize files options j).result = .error (.lexical e) := by
  rcases job_eq_ok hjob with ⟨line, rfl⟩ | ⟨path, hfile, rfl⟩
  · exact tokenizeLine_cases line options
  · obtain ⟨bytes, hfound⟩ := hchecked path hfile
    exact tokenizeFile_cases hfound options

/-! ## What is told -/

lemma Ending.ofTelling_cases (code : ExitCode) (fault? : Option WriteFault) :
    ofTelling code fault? = .exit code ∨ ∃ fault, ofTelling code fault? = .untold fault := by
  cases fault? with
  | none => exact Or.inl rfl
  | some fault => exact Or.inr ⟨fault, rfl⟩

/-- A problem ends the run with its code, unless it cannot be told. -/
lemma ending_report (shell : Shell) (verbose : Bool) (p : Problem) :
    (report shell verbose p).ending = .exit p.exitCode ∨
      ∃ fault, (report shell verbose p).ending = .untold fault :=
  Ending.ofTelling_cases p.exitCode _

/-- An error of the source is told in one message. -/
lemma report_lexical (shell : Shell) (verbose : Bool) (d : Diagnostic) :
    report shell verbose (.lexical d) =
      { ending := .ofTelling .lexicalError (shell.write .report 0 d.render).fault
        stderr := (shell.write .report 0 d.render).text } := by
  have hmessages : (Problem.lexical d).messages verbose = [d.render] := rfl
  rw [report, hmessages, Shell.writeAll_singleton]
  rfl

/-! ## What is written -/

lemma output_of_dump {ts : List Token} (h : found.result = .ok ts)
    (hdump : (dump shell a ts).fault = none) :
    output shell a options found =
      { ending := .exit .success
        stdout := (dump shell a ts).text
        stderr := writtenLog shell a options found.log } := by
  simp only [output, dumped, h, hdump, Option.map_none]

lemma output_of_writeFault {ts : List Token} {fault : WriteFault} (h : found.result = .ok ts)
    (hdump : (dump shell a ts).fault = some fault) :
    output shell a options found =
      { report shell a.verbose (.ofWriteFault fault) with
        stdout := (dump shell a ts).text
        stderr := writtenLog shell a options found.log ++
          (report shell a.verbose (.ofWriteFault fault)).stderr } := by
  simp only [output, dumped, h, hdump, Option.map_some]

lemma output_of_failure {failure : Failure} (h : found.result = .error failure) :
    output shell a options found =
      { report shell a.verbose (.ofFailure failure) with
        stdout := []
        stderr := writtenLog shell a options found.log ++
          (report shell a.verbose (.ofFailure failure)).stderr } := by
  simp only [output, dumped, h]

lemma run_of_job (environment : Options.Environment) (hjob : a.job = .ok j) :
    run shell files environment (.accepted a) =
      output shell a (chosenOptions environment a)
        (tokenize files (chosenOptions environment a) j) := by
  simp only [run, hjob]

/-- Tokens whose texts hold no escape character are written as they are dumped. -/
lemma dump_of_notMem (hshell : shell.Documented) {ts : List Token}
    (hdump : (dump shell a ts).fault = none) (h : ∀ t ∈ ts, '\x1b' ∉ t.text) :
    (dump shell a ts).text = ts.flatMap fun t => Dump.line a.markLines t ++ ['\n'] := by
  have hlines : ∀ line ∈ ts.map (Dump.line a.markLines), '\x1b' ∉ line := by
    intro line hline hescape
    obtain ⟨t, ht, rfl⟩ := List.mem_map.1 hline
    exact h t ht ((Dump.mem_line_iff (by decide)).1 hescape)
  rw [dump, (Shell.shown_of_writeAll hshell hdump).eq_of_notMem hlines, List.flatMap_map]

/-- The lines in front of the one that cannot be written are in the dump, and none behind it. -/
lemma dump_of_writeFault (hshell : shell.Documented) {ts : List Token} {fault : WriteFault}
    (hdump : (dump shell a ts).fault = some fault) :
    ∃ done t todo text, ts = done ++ t :: todo ∧
      (shell.write .dump done.length (Dump.line a.markLines t)).fault = some fault ∧
      Shell.Shown (done.map (Dump.line a.markLines)) text ∧
      (dump shell a ts).text =
        text ++ (shell.write .dump done.length (Dump.line a.markLines t)).text := by
  obtain ⟨lines, line, others, hlines, hdone, hfault, htext⟩ := Shell.writeAll_eq_some hdump
  obtain ⟨done, rest, rfl, rfl, hrest⟩ := List.map_eq_append_iff.1 hlines
  obtain ⟨t, todo, rfl, rfl, rfl⟩ := List.map_eq_cons_iff.1 hrest
  rw [List.length_map, Nat.zero_add] at hfault htext
  exact ⟨done, t, todo, _, rfl, hfault, Shell.shown_of_writeAll hshell hdone, htext⟩

/-! ## How a run ends -/

/-- A line of the dump cannot be written. -/
def DumpFails (shell : Shell) (files : FileSystem) (environment : Options.Environment)
    (parsed : Parsed) : Prop :=
  ∃ a j ts, parsed = .accepted a ∧ a.job = .ok j ∧
    (tokenize files (chosenOptions environment a) j).result = .ok ts ∧ (dump shell a ts).fault ≠ none

/-- What a run that reads leaves when all tokens are there. -/
lemma run_of_tokens (hshell : shell.Documented) (hjob : a.job = .ok j)
    (hoptions : options = chosenOptions environment a) {ts : List Token}
    (hts : (tokenize files options j).result = .ok ts) {out : Output}
    (hrun : run shell files environment (.accepted a) = out) :
    ((dump shell a ts).fault = none →
      out.ending = .exit .success ∧ Shell.Shown (ts.map (Dump.line a.markLines)) out.stdout ∧
      out.stderr = writtenLog shell a options (tokenize files options j).log ∧
      ((∀ t ∈ ts, '\x1b' ∉ t.text) →
        out.stdout = ts.flatMap fun t => Dump.line a.markLines t ++ ['\n'])) ∧
    ∀ fault, (dump shell a ts).fault = some fault →
      (out.ending = .exit (Problem.ofWriteFault fault).exitCode ∨ ∃ f, out.ending = .untold f) ∧
      ∃ done t todo text, ts = done ++ t :: todo ∧
        (shell.write .dump done.length (Dump.line a.markLines t)).fault = some fault ∧
        Shell.Shown (done.map (Dump.line a.markLines)) text ∧
        out.stdout = text ++ (shell.write .dump done.length (Dump.line a.markLines t)).text := by
  rw [run_of_job environment hjob, ← hoptions] at hrun
  subst hrun
  constructor
  · intro hdump
    rw [output_of_dump hts hdump]
    exact ⟨rfl, Shell.shown_of_writeAll hshell hdump, rfl, dump_of_notMem hshell hdump⟩
  · intro fault hdump
    rw [output_of_writeFault hts hdump]
    exact ⟨ending_report shell a.verbose (.ofWriteFault fault), dump_of_writeFault hshell hdump⟩

/-- What a run that reads leaves when there is an error of the source. -/
lemma run_of_lexical (hshell : shell.Documented) (hjob : a.job = .ok j)
    (hoptions : options = chosenOptions environment a) {e : LexicalError}
    (he : (tokenize files options j).result = .error (.lexical e)) {out : Output}
    (hrun : run shell files environment (.accepted a) = out) :
    out.stdout = [] ∧
    ((shell.write .report 0 e.diagnostic.render).fault = none →
      out.ending = .exit .lexicalError ∧ ∃ shown, Ansi.Leaves e.diagnostic.render shown ∧
        out.stderr =
          writtenLog shell a options (tokenize files options j).log ++ (shown ++ ['\n'])) ∧
    ∀ fault, (shell.write .report 0 e.diagnostic.render).fault = some fault →
      out.ending = .untold fault := by
  rw [run_of_job environment hjob, ← hoptions, output_of_failure he] at hrun
  have hproblem : Problem.ofFailure (.lexical e) = .lexical e.diagnostic := rfl
  rw [hproblem, report_lexical] at hrun
  subst hrun
  refine ⟨rfl, fun hfault => ?_, fun fault hfault => ?_⟩
  · obtain ⟨shown, hshown, htext⟩ := hshell.written hfault
    rw [hfault]
    exact ⟨rfl, shown, hshown, by rw [htext]⟩
  · rw [hfault]
    rfl

/-- Where no line of the dump fails, a run that does not end well has dumped nothing, and none ends with
an internal error. -/
lemma run_ends (hshell : shell.Documented) (hparsed : parsed.Checked files)
    (hdump : ¬ DumpFails shell files environment parsed) {out : Output}
    (hrun : run shell files environment parsed = out) :
    (out.ending ≠ .exit .success → out.stdout = []) ∧ out.ending ≠ .exit .internalError := by
  cases parsed with
  | refused told =>
    subst hrun
    exact ⟨fun _ => rfl, nofun⟩
  | answered text =>
    subst hrun
    exact ⟨fun h => absurd rfl h, nofun⟩
  | accepted a =>
    cases hjob : a.job with
    | error refusal =>
      simp only [run, hjob] at hrun
      subst hrun
      exact ⟨fun _ => rfl, nofun⟩
    | ok j =>
      rcases tokenize_cases (hparsed a rfl) hjob (chosenOptions environment a) with
        ⟨ts, hts⟩ | ⟨e, he⟩
      · have hwritten : (dump shell a ts).fault = none := by
          by_contra hfault
          exact hdump ⟨a, j, ts, rfl, hjob, hts, hfault⟩
        obtain ⟨hending, -⟩ := (run_of_tokens hshell hjob rfl hts hrun).1 hwritten
        rw [hending]
        exact ⟨fun h => absurd rfl h, nofun⟩
      · obtain ⟨hstdout, htold, huntold⟩ := run_of_lexical hshell hjob rfl he hrun
        refine ⟨fun _ => hstdout, ?_⟩
        cases hfault : (shell.write .report 0 e.diagnostic.render).fault with
        | none =>
          rw [(htold hfault).1]
          exact nofun
        | some fault =>
          rw [huntold fault hfault]
          exact nofun

/-- **Nothing is dumped in part, and nothing goes wrong inside, as long as the dump can be written.**  Let
the shell keep what is documented, and let the file that accepted arguments name be there.  If no line of
the dump fails to be written, a run that does not end well has dumped nothing, and no run ends with an
internal error.  If the arguments are accepted and give something to read, there are two cases.

* All tokens are there before the first is dumped.  If their lines can be written, the run ends well and
  the dump has the line of each token, in order, as the shell writes it; a token whose text holds no escape
  character is written as it is dumped.  Otherwise the dump has the lines in front of the first that cannot
  be written, and the run ends with the code of that fault or, if the fault cannot be told, untold.
* There is an error of the source.  Nothing is dumped, the code is that of faulty scripts, and the message
  of the error is the last thing told, unless it cannot be written. -/
theorem run_outcome (hshell : shell.Documented) (hparsed : parsed.Checked files)
    (environment : Options.Environment) {out : Output}
    (hrun : run shell files environment parsed = out) :
    (¬ DumpFails shell files environment parsed →
      (out.ending ≠ .exit .success → out.stdout = []) ∧ out.ending ≠ .exit .internalError) ∧
    ∀ a j options, parsed = .accepted a → a.job = .ok j → options = chosenOptions environment a →
      (∃ ts, (tokenize files options j).result = .ok ts ∧
        ((dump shell a ts).fault = none →
          out.ending = .exit .success ∧ Shell.Shown (ts.map (Dump.line a.markLines)) out.stdout ∧
          out.stderr = writtenLog shell a options (tokenize files options j).log ∧
          ((∀ t ∈ ts, '\x1b' ∉ t.text) →
            out.stdout = ts.flatMap fun t => Dump.line a.markLines t ++ ['\n'])) ∧
        ∀ fault, (dump shell a ts).fault = some fault →
          (out.ending = .exit (Problem.ofWriteFault fault).exitCode ∨ ∃ f, out.ending = .untold f) ∧
          ∃ done t todo text, ts = done ++ t :: todo ∧
            (shell.write .dump done.length (Dump.line a.markLines t)).fault = some fault ∧
            Shell.Shown (done.map (Dump.line a.markLines)) text ∧
            out.stdout =
              text ++ (shell.write .dump done.length (Dump.line a.markLines t)).text) ∨
      ∃ e, (tokenize files options j).result = .error (.lexical e) ∧ out.stdout = [] ∧
        ((shell.write .report 0 e.diagnostic.render).fault = none →
          out.ending = .exit .lexicalError ∧ ∃ shown, Ansi.Leaves e.diagnostic.render shown ∧
            out.stderr =
              writtenLog shell a options (tokenize files options j).log ++ (shown ++ ['\n'])) ∧
        ∀ fault, (shell.write .report 0 e.diagnostic.render).fault = some fault →
          out.ending = .untold fault := by
  refine ⟨fun hdump => run_ends hshell hparsed hdump hrun, ?_⟩
  rintro a j options rfl hjob hoptions
  rcases tokenize_cases (hparsed a rfl) hjob options with ⟨ts, hts⟩ | ⟨e, he⟩
  · exact Or.inl ⟨ts, hts, run_of_tokens hshell hjob hoptions hts hrun⟩
  · exact Or.inr ⟨e, he, run_of_lexical hshell hjob hoptions he hrun⟩

/-- A file that ends inside a literal behind a token: the token is not dumped.  And a file of which the
second token cannot be dumped, since the stream is too narrow for one of its characters: the first one has
been dumped when the run ends. -/
theorem run_outcome_both_ends :
    (∃ (d : Directory) (args : List Text) (a : Arguments) (out : Output),
      Shell.piped.Documented ∧ (parse d.find args).Checked d.find ∧
      parse d.find args = .accepted a ∧ a.job = .ok (.file "a.mn".toList) ∧
      run .piped d.find [] (parse d.find args) = out ∧
      out.ending = .exit .lexicalError ∧ out.stdout = [] ∧
      out.stderr =
        ("a.mn:1: unterminated string literal ''b'\n" ++
          "hint: add the closing ' on the same line\n").toList) ∧
    ∃ (d : Directory) (args : List Text) (a : Arguments) (ts : List Token) (out : Output),
      Shell.narrow.Documented ∧ (parse d.find args).Checked d.find ∧
      parse d.find args = .accepted a ∧ a.job = .ok (.file "a.mn".toList) ∧
      (tokenize d.find {} (.file "a.mn".toList)).result = .ok ts ∧ ts.length = 3 ∧
      run .narrow d.find [] (parse d.find args) = out ∧
      out.ending = .exit .internalError ∧ out.stdout = "1:IDENTIFIER:x\n".toList ∧
      ∃ done t todo, ts = done ++ t :: todo ∧
        (Shell.narrow.write .dump done.length (Dump.line false t)).fault ≠ none := by
  let args : List Text := [".//a.mn".toList]
  let a : Arguments := { file := some "a.mn".toList }
  constructor
  · let d : Directory := [("a.mn".toList, some [0x78, 0x20, 0x27, 0x62])]
    have hparse : parse d.find args = .accepted a := by decide +kernel
    have hchecked := checked_parse_find d args
    refine ⟨d, args, a, _, Shell.documented_piped, hchecked, hparse, rfl, rfl, ?_⟩
    rcases (run_outcome Shell.documented_piped hchecked [] rfl).2 a _ {} hparse rfl rfl with
      ⟨ts, hts, -⟩ | ⟨e, he, hstdout, htold, -⟩
    · have herror : (tokenize d.find {} (.file "a.mn".toList)).result.isOk = false := by
        decide +kernel
      rw [hts] at herror
      cases herror
    · exact ⟨(htold rfl).1, hstdout, by decide +kernel⟩
  · -- the second token is a literal with the sign of the euro
    let d : Directory := [("a.mn".toList, some [0x78, 0x20, 0x27, 0xE2, 0x82, 0xAC, 0x27])]
    have hparse : parse d.find args = .accepted a := by decide +kernel
    have hchecked := checked_parse_find d args
    let ts : List Token := (tokenize d.find {} (.file "a.mn".toList)).result.toOption.getD []
    have hts : (tokenize d.find {} (.file "a.mn".toList)).result = .ok ts := by decide +kernel
    have hfault : (dump .narrow a ts).fault = some (.other "ordinal not in range(256)") := by
      decide +kernel
    have hcode : (run .narrow d.find [] (parse d.find args)).ending = .exit .internalError := by
      decide +kernel
    rcases (run_outcome Shell.documented_narrow hchecked [] rfl).2 a _ {} hparse rfl rfl with
      ⟨ts', hts', -, hfails⟩ | ⟨e, he, -⟩
    · obtain rfl : ts = ts' := Except.ok.inj (hts.symm.trans hts')
      obtain ⟨-, done, t, todo, text, hsplit, hwrite, -, -⟩ := hfails _ hfault
      refine ⟨d, args, a, ts, _, Shell.documented_narrow, hchecked, hparse, rfl, hts, ?_, rfl, hcode,
        ?_, done, t, todo, hsplit, ?_⟩
      · decide +kernel
      · decide +kernel
      · rw [hwrite]
        exact nofun
    · rw [hts] at he
      cases he

/-- Where no terminal is, a literal that holds a control sequence is written without it, so the dump is not
what its token would be dumped as. -/
theorem run_stripped_dump :
    ∃ (d : Directory) (args : List Text) (a : Arguments) (line : Text) (t : Token) (out : Output),
      Shell.piped.Documented ∧ args = ["-e".toList, line] ∧ line = "'\x1b[31ma'".toList ∧
      parse d.find args = .accepted a ∧ a.job = .ok (.line line) ∧
      (tokenizeLine line (chosenOptions [] a)).result = .ok [t] ∧
      run .piped d.find [] (parse d.find args) = out ∧ out.ending = .exit .success ∧
      out.stdout = "1:STRING_LITERAL:'a':\"\\e[31ma\"\n".toList ∧
      out.stdout ≠ [t].flatMap fun t => Dump.line a.markLines t ++ ['\n'] := by
  let line : Text := "'\x1b[31ma'".toList
  let args : List Text := ["-e".toList, line]
  let t : Token :=
    { kind := .stringLiteral, text := line, value := [0x1b, 0x5b, 0x33, 0x31, 0x6d, 0x61],
      location := ⟨namelessSource, 1⟩, startsLine := true }
  refine ⟨[], args, { expression := some line }, line, t, _, Shell.documented_piped, rfl, rfl, rfl, rfl,
    ?_, rfl, ?_, ?_, ?_⟩
  all_goals decide +kernel

end CommandLine

end ScriptLexer
