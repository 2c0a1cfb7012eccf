import ScriptLexer.Proofs.Session.Emission
import ScriptLexer.Proofs.Session.Numbering

/-!
# Switching on the skipping of directives

No lexeme of the language begins as a directive does.  So a run that does not skip directives fails
at the first one outside comments and literals, and up to there it does what a run does that skips
them.  This one drops the directive, which is all that is left of its line, and goes on with the
next line (`tokenizeStream_skipping`).

What the first run leaves when it fails is the place at which the other goes on: `Within` says that
a cursor stands on the last of the lines that have been read.
-/

namespace ScriptLexer

/-! ## Directives that are not skipped -/

/-- The error is that of a token that is not known and begins as a directive does. -/
def LexicalError.ShowsDirective (e : LexicalError) : Prop :=
  e.diagnostic.kind = .invalidToken ∧ "invalid token #".toList <+: e.diagnostic.text

instance (e : LexicalError) : Decidable e.ShowsDirective := inferInstanceAs (Decidable (_ ∧ _))

lemma LexicalError.showsDirective_iff {e : LexicalError} :
    e.ShowsDirective ↔ ∃ t, e.fault = .noToken (directiveMark :: t) := by
  have hlead : "invalid token #".toList = "invalid token ".toList ++ [directiveMark] := by decide
  obtain ⟨fault, location⟩ := e
  show fault.kind = .invalidToken ∧ "invalid token #".toList <+: fault.text ↔ _
  rw [hlead]
  constructor
  · rintro ⟨hkind, htext⟩
    cases fault with
    | noToken line =>
      obtain ⟨t, rfl⟩ := (List.prefix_append_right_inj "invalid token ".toList).1 htext
      exact ⟨t, rfl⟩
    | literal fault line => rcases fault with quote | (_ | _ | _ | _) <;> cases hkind
    | _ => cases hkind
  · rintro ⟨t, rfl⟩
    refine ⟨rfl, ?_⟩
    show _ <+: "invalid token ".toList ++ directiveMark :: t
    rw [List.prefix_append_right_inj]
    exact ⟨t, rfl⟩

/-- The options with the skipping of directives switched on or off. -/
def Options.withSkip (o : Options) (skip : Bool) : Options := { o with skipDirectives := skip }

/-- Runs that skip directives and runs that do not part at a directive only. -/
def Parting.directive : Parting where
  token _ := False
  fault fault := ∃ t, fault = .noToken (directiveMark :: t)

/-- The rules under which directives are skipped. -/
def Rules.skipping (r : Rules) : Rules := { r with options := r.options.withSkip true }

lemma Rules.sameLanguage_skipping (r : Rules) : r.skipping.SameLanguage r := ⟨rfl, rfl, rfl⟩

/-- Until a directive is found, a line is scanned in the same way if directives are skipped. -/
lemma Rules.sameUpTo_directive {r : Rules} (htable : r.table = .standard) :
    r.SameUpTo r.skipping .directive where
  file := rfl
  streaming := rfl
  scan := by
    intro c _ hfault
    refine Cursor.scan_congr_rules fun rest hskip => ?_
    refine Cursor.scanCode_of_sameLanguage r.sameLanguage_skipping ?_
    show Cursor.isDirective r.skipping rest = Cursor.isDirective r rest
    cases hdir : Cursor.isDirective r rest with
    | true =>
      rw [Cursor.isDirective, Bool.and_eq_true, Bool.and_eq_true] at hdir
      simp [Cursor.isDirective, skipping, Options.withSkip, hdir]
    | false =>
      -- what is a directive only if they are skipped is a fault if they are not
      refine Bool.eq_false_iff.2 fun hdir' => ?_
      have hmark := Cursor.head?_of_isDirective hdir'
      obtain ⟨t, rfl⟩ := List.head?_eq_some_iff.1 hmark
      refine hfault (.noToken (directiveMark :: t)) ?_ ⟨t, rfl⟩
      rw [(Cursor.scan_of_code hskip).1,
        Cursor.scanCode_of_mark (c := c.behindComments (directiveMark :: t)) htable hdir rfl]
      rfl

lemma Pull.onLine_of_noToken {p : Pull} {e : LexicalError} {line : Text} (h : p.found = .error e)
    (he : e.fault = .noToken line) : p.OnLine := by
  constructor
  · intro t ht
    rw [h] at ht
    cases ht
  · intro e' he'
    obtain rfl := Except.error.inj (h.symm.trans he')
    rw [he]
    exact ⟨nofun, nofun⟩

namespace Cursor

variable {r : Rules} {marked : Bool} {c : Cursor} {chunks : List Chunk}

/-- The cursor at the end of its line, of which the rest is dropped. -/
def dropLine (c : Cursor) : Cursor := { c with rest := [] }

/-- A directive that is not skipped is left where it is; if directives are skipped, it is dropped. -/
lemma scan_of_directive {t : Text} (hstream : r.streaming = true)
    (h : (scan r c).found = .error (.noToken (directiveMark :: t))) :
    (scan r c).cursor.rest = directiveMark :: t ∧ (scan r.skipping c).found = .ok none ∧
      (scan r.skipping c).cursor = (scan r c).cursor.dropLine := by
  rcases scan_eq_error h with ⟨form, line, -, hfault, -⟩ | ⟨rest, hskip, hne, -, hread, hcursor⟩
  · cases hfault
  · obtain rfl : rest = directiveMark :: t := by
      cases Lexeme.at_of_read_eq_error hread
      rfl
    have hdir : isDirective r.skipping (directiveMark :: t) = true := by
      simp [isDirective, Rules.skipping, Options.withSkip, hstream]
    obtain ⟨hfound, hlast⟩ := scan_of_code (r := r.skipping) hskip
    obtain ⟨hend, hdrop⟩ := scanCode_of_end (r := r.skipping)
      (c := c.behindComments (directiveMark :: t)) (Or.inr hdir)
    refine ⟨by rw [hcursor], hfound.trans hend, ?_⟩
    rw [hlast, hdrop, hcursor, behindComments, (Comment.gap_of_skip hskip hne).1]
    rfl

/-- In search of the next token, a directive that is not skipped ends the search; if directives are
skipped, the search goes on behind the line. -/
lemma next_of_directive {e : LexicalError} {t : Text} (htable : r.table = .standard)
    (hstream : r.streaming = true) (h : (next r marked c chunks).found = .error e)
    (he : e.fault = .noToken (directiveMark :: t)) :
    let pull := next r marked c chunks
    pull.cursor.rest = directiveMark :: t ∧
      e.location = some ⟨r.file, pull.cursor.lineNumber⟩ ∧
      (next r.skipping marked pull.cursor.dropLine pull.chunks).outcome =
        (next r.skipping marked c chunks).outcome := by
  intro pull
  obtain ⟨c', hreads, hcursor, herror⟩ := exists_scan_of_onLine (Pull.onLine_of_noToken h he)
  obtain ⟨hscan, hlocation⟩ := herror e h
  rw [he] at hscan
  obtain ⟨hrest, hend, hlast⟩ := scan_of_directive hstream hscan
  refine ⟨?_, ?_, ?_⟩
  · rw [hcursor]
    exact hrest
  · rw [hcursor, lineNumber_scan, hlocation, location_of_streaming hstream]
  · rw [(hreads.of_sameUpTo (Rules.sameUpTo_directive htable)).outcome_next, hcursor, ← hlast]
    exact outcome_next_scan marked pull.chunks hend

/-! ## The line at hand -/

/-- The cursor stands on the last line that was read of `reads`, and `chunks` are to come. -/
inductive Within (marked : Bool) (reads : List Chunk) (c : Cursor) : List Chunk → Prop
  /-- No line has been read. -/
  | first : c.lineNumber = 0 → c.rest = [] → Within marked reads c reads
  /-- A line has been read, and what is left of it is its end. -/
  | line (before : List Chunk) (front : Text) {chunks : List Chunk} {chunk : Chunk} {line : Text} :
      reads = before ++ chunk :: chunks → (∀ read ∈ before ++ [chunk], read.isEmpty = false) →
        chunk.decode = .ok line → c.lineNumber = before.length + 1 →
          Text.trim (({ lineNumber := before.length } : Cursor).unmarked marked line) =
            front ++ c.rest →
            Within marked reads c chunks

namespace Within

variable {reads : List Chunk}

/-- A scan stays on the line. -/
lemma scan (h : c.Within marked reads chunks) (r : Rules) :
    (scan r c).cursor.Within marked reads chunks := by
  obtain ⟨g, hg⟩ := rest_scan_suffix r c
  cases h with
  | first hnumber hrest =>
    rw [hrest, List.append_eq_nil_iff] at hg
    exact Within.first ((lineNumber_scan r c).trans hnumber) hg.2
  | line before front hreads hlines hdecode hnumber hline =>
    refine Within.line before (front ++ g) hreads hlines hdecode
      ((lineNumber_scan r c).trans hnumber) ?_
    rw [hline, ← hg, List.append_assoc]

/-- The next line is read. -/
lemma start (h : c.Within marked reads chunks) {chunk : Chunk} {chunks' : List Chunk} {line : Text}
    (hchunks : chunks = chunk :: chunks') (hchunk : chunk.isEmpty = false)
    (hdecode : chunk.decode = .ok line) :
    (c.start (c.unmarked marked line)).Within marked reads chunks' := by
  have hmark : ∀ n : Nat, c.lineNumber = n →
      ({ lineNumber := n } : Cursor).unmarked marked line = c.unmarked marked line := by
    rintro n rfl
    rfl
  cases h with
  | first hnumber hrest =>
    refine Within.line [] [] hchunks (by simp [hchunk]) hdecode ?_ ?_
    · show c.lineNumber + 1 = _
      rw [hnumber]
      rfl
    · exact congrArg Text.trim (hmark 0 hnumber)
  | @line before front _ last _ hreads hlines _ hnumber _ =>
    -- the line at hand joins the earlier ones
    subst hchunks
    refine Within.line (before ++ [last]) [] ?_ ?_ hdecode ?_ ?_
    · rw [hreads, List.append_assoc]
      rfl
    · exact List.forall_mem_append.2 ⟨hlines, List.forall_mem_singleton.2 hchunk⟩
    · show c.lineNumber + 1 = _
      rw [hnumber, List.length_append]
      rfl
    · refine congrArg Text.trim (hmark (before ++ [last]).length ?_)
      rw [hnumber, List.length_append]
      rfl

lemma readsOn {c' : Cursor} {chunks' : List Chunk} (h : c.Within marked reads chunks)
    (hreads : ReadsOn r marked c chunks c' chunks') : c'.Within marked reads chunks' := by
  induction hreads with
  | here c chunks => exact h
  | line hscan hchunk hdecode _ ih => exact ih ((h.scan r).start rfl hchunk hdecode)

/-- What is found on a line leaves the cursor there. -/
lemma next (h : c.Within marked reads chunks) (hline : (next r marked c chunks).OnLine) :
    (next r marked c chunks).cursor.Within marked reads (next r marked c chunks).chunks := by
  obtain ⟨c', hreads, hcursor, -⟩ := exists_scan_of_onLine hline
  rw [hcursor]
  exact (h.readsOn hreads).scan r

end Within

end Cursor

namespace Session

variable {s after : Session} {reads : List Chunk} {marked : Bool}

/-- The session reads a stream that is open, and stands on the last line that was read of `reads`. -/
def Within (reads : List Chunk) (marked : Bool) (s : Session) : Prop :=
  ∃ input, s.input = some input ∧ input.stream.isClosed = false ∧ input.marked = marked ∧
    s.cursor.Within marked reads input.stream.chunks

lemma Within.next {t : Token} (h : s.Within reads marked) (hnext : s.next = (.ok t, after))
    (ht : t.kind ≠ .endOfFile) : after.Within reads marked := by
  obtain ⟨input, hinput, hopen, rfl, hwithin⟩ := h
  obtain ⟨hfound, log, rfl⟩ := pull_of_next hinput hopen hnext
  refine ⟨_, rfl, hopen, rfl, hwithin.next ⟨?_, ?_⟩⟩
  · intro t' ht'
    obtain rfl := Except.ok.inj (hfound.symm.trans ht')
    exact ht
  · intro e he
    rw [hfound] at he
    cases he

lemma Emits.within {ts : List Token} (h : Emits .source s ts after) (hs : s.Within reads marked) :
    after.Within reads marked := by
  induction h with
  | nil s => exact hs
  | cons hask hend _ ih => exact ih (hs.next (next_eq_ok_of_ask hask) hend)

lemma Emits.rules_eq {way : Way} {ts : List Token} (h : Emits way s ts after) :
    after.rules = s.rules := by
  induction h with
  | nil s => rfl
  | @cons s next after t ts hask _ _ ih =>
    have hmoves := moves_ask way s
    rw [hask] at hmoves
    exact ih.trans hmoves.rules_eq

/-- The session with what is left of its line dropped. -/
def dropLine (s : Session) : Session := { s with cursor := s.cursor.dropLine }

/-- An error of an open stream is that of the cursor. -/
lemma pull_of_next_error {input : Input} {e : LexicalError} (hinput : s.input = some input)
    (hopen : input.stream.isClosed = false) (h : s.next = (.error (.lexical e), after)) :
    (s.cursor.next s.rules input.marked input.stream.chunks).found = .error e ∧
      Alike (s.moved input (s.cursor.next s.rules input.marked input.stream.chunks).cursor
        (s.cursor.next s.rules input.marked input.stream.chunks).chunks) after := by
  obtain ⟨hfound, hafter⟩ := next_of_open hinput hopen
  rw [h] at hfound hafter
  refine ⟨?_, hafter⟩
  cases hpull : (s.cursor.next s.rules input.marked input.stream.chunks).found with
  | ok t =>
    rw [hpull] at hfound
    cases hfound
  | error e' =>
    rw [hpull] at hfound
    rw [Failure.lexical.inj (Except.error.inj hfound)]

/-- A session that fails at a directive stands in front of it, with all that is left of the line. One
that skips directives goes on as if the line ended there. -/
lemma next_of_directive {e : LexicalError} {t : Text} (htable : s.rules.table = .standard)
    (hs : s.Within reads marked) (h : s.next = (.error (.lexical e), after))
    (he : e.fault = .noToken (directiveMark :: t)) :
    after.Within reads marked ∧ after.cursor.rest = directiveMark :: t ∧
      e.location = some ⟨s.file, after.cursor.lineNumber⟩ ∧
      Agrees (s.withSkip true) (after.withSkip true).dropLine := by
  obtain ⟨input, hinput, hopen, rfl, hwithin⟩ := hs
  obtain ⟨hfound, log, rfl⟩ := pull_of_next_error hinput hopen h
  have hstream : s.rules.streaming = true := by
    rw [rules, hinput]
    rfl
  obtain ⟨hrest, hlocation, houtcome⟩ := Cursor.next_of_directive htable hstream hfound he
  refine ⟨?_, hrest, hlocation, ?_⟩
  · exact ⟨_, rfl, hopen, rfl, hwithin.next (Pull.onLine_of_noToken hfound he)⟩
  · refine (agrees_moved (s := s.withSkip true) hinput hopen houtcome).trans ?_
    exact Alike.agrees ⟨log, rfl⟩

/-- The run that skips directives gives the same, or the other one fails at a directive.  Then the run
that skips them goes on from where the other is left, once the directive is dropped. -/
lemma emission_withSkip (htable : s.rules.table = .standard) (hs : s.Within reads marked) :
    ((s.withSkip true).emission .source = s.emission .source ∧
        ∀ e, (s.emission .source).failure = some (.lexical e) → ¬ e.ShowsDirective) ∨
      ∃ e last, e.ShowsDirective ∧ (s.emission .source).failure = some (.lexical e) ∧
        s.collect = (.error (.lexical e), last) ∧ last.Within reads marked ∧
        e.fault = .noToken last.cursor.rest ∧ last.cursor.rest ≠ [] ∧
        e.location = some ⟨s.file, last.cursor.lineNumber⟩ ∧
        (s.withSkip true).emission .source =
          ((last.withSkip true).dropLine.emission .source).preceded (s.emission .source).tokens := by
  have hsame : s.rules.SameUpTo (s.mapOptions fun o => o.withSkip true).rules .directive :=
    Rules.sameUpTo_directive htable
  rcases emission_mapOptions hsame .source with
    ⟨heq, -, hfailure⟩ | ⟨ts, mid, hemits, hemits', -, hat⟩
  · refine Or.inl ⟨heq, fun e he hshows => ?_⟩
    exact hfailure e he (LexicalError.showsDirective_iff.1 hshows)
  · -- one more call, and the first run fails
    right
    obtain ⟨e, hask, t, he⟩ : ∃ e, (mid.ask .source).1 = .error (.lexical e) ∧
        ∃ t, e.fault = .noToken (directiveMark :: t) :=
      (Parting.at_iff.1 hat).resolve_left fun ⟨t, _, ht⟩ => ht
    have hfail : mid.ask .source = (.error (.lexical e), mid.next.2) := Prod.ext hask rfl
    have hnext := next_eq_error_of_ask hfail
    have hemission : s.emission .source = ⟨ts, some (.lexical e)⟩ := by
      rw [hemits.emission_eq, emission_of_error hfail, Emission.preceded, List.append_nil]
    have hrules := hemits.rules_eq
    obtain ⟨hlast, hrest, hlocation, hagrees⟩ :=
      next_of_directive (by rw [hrules, htable]) (hemits.within hs) hnext he
    rw [show mid.file = s.file from congrArg Rules.file hrules] at hlocation
    refine ⟨e, mid.next.2, LexicalError.showsDirective_iff.2 ⟨t, he⟩, by rw [hemission],
      hemits.collect_eq hnext, hlast, by rw [he, hrest], by simp [hrest], hlocation, ?_⟩
    rw [hemission, ← hagrees.emission_eq]
    exact hemits'.emission_eq

/-! ## The two runs -/

/-- The setup with the skipping of directives switched on or off. -/
def Setup.withSkip (setup : Setup) (skip : Bool) : Setup :=
  setup.mapOptions fun o => o.withSkip skip

variable {setup : Setup} {stream : Stream}

lemma within_of_create (hstream : setup.stream = some stream) (hopen : stream.isClosed = false)
    (h : create setup = .ok s) :
    s.Within stream.chunks (setup.mark = .mark .utf8) := by
  obtain ⟨-, hinput, -, hcursor⟩ := create_eq_ok hstream h
  refine ⟨_, hinput, hopen, rfl, ?_⟩
  rw [hcursor]
  exact Cursor.Within.first rfl rfl

/-- **Skipping directives changes nothing but the text of directives.**  Let a stream be read with the
spellings of the language and a mark that is accepted, once without skipping directives and once with
it.  If the first run does not fail at a directive, both runs have the same result.

If it does, on the line with the number `k`, its session is left in front of the directive: the text
in the error is all that is left of the line, and the lines behind it are still to be read.  The
other run gives the tokens that the first run gave.  Then it goes on as the session that was left
does, once this text is dropped and directives are skipped: with the line behind the line `k`. -/
theorem tokenizeStream_skipping (hstream : setup.stream = some stream)
    (htable : setup.table.getD Table.standard = Table.standard)
    (hmark : setup.mark.refusal? = none) :
    let off := setup.withSkip false
    let on := setup.withSkip true
    ((∀ e, (tokenizeStream off).result = .error (.lexical e) → ¬ e.ShowsDirective) →
        (tokenizeStream on).result = (tokenizeStream off).result) ∧
      ∀ e, (tokenizeStream off).result = .error (.lexical e) → e.ShowsDirective →
        ∃ (s last : Session) (k : Nat) (before behind : List Chunk) (chunk : Chunk)
          (line front dropped : Text),
          create off = .ok s ∧ s.tokenize = (.error (.lexical e), last) ∧
          e.location = some ⟨setup.sourceName, k⟩ ∧
          e.diagnostic.text = "invalid token " ++ dropped ∧
          k = before.length + 1 ∧ stream.chunks = before ++ chunk :: behind ∧
          (∀ read ∈ before ++ [chunk], read.isEmpty = false) ∧ chunk.decode = .ok line ∧
          Text.trim (({ lineNumber := before.length } : Cursor).unmarked
            (setup.mark = .mark .utf8) line) = front ++ dropped ∧
          last.cursor.lineNumber = k ∧ last.cursor.rest = dropped ∧
          (∃ input, last.input = some input ∧ input.stream.chunks = behind) ∧
          on.emission none =
            ((last.withSkip true).dropLine.emission .source).preceded (off.emission none).tokens := by
  intro off on
  have hstreamOff : off.stream = some stream := hstream
  have hmarkOff : off.mark.refusal? = none := hmark
  cases hopen : stream.isClosed with
  | true =>
    -- a closed stream is refused in both runs
    have hstreamOn : on.stream = some stream := hstream
    rw [tokenizeStream_of_closed hstreamOff hopen hmarkOff,
      tokenizeStream_of_closed hstreamOn hopen hmark]
    exact ⟨fun _ => rfl, nofun⟩
  | false =>
    obtain ⟨s, hcreate⟩ := exists_create hmarkOff
    have hcreate' : create on = .ok (s.withSkip true) := by
      have hmap := create_mapOptions (fun o => o.withSkip true) off
      rw [hcreate] at hmap
      exact hmap
    have hoff : off.emission none = s.emission .source := by rw [Setup.emission, hcreate]
    have hon : on.emission none = (s.withSkip true).emission .source := by
      rw [Setup.emission, hcreate']
    obtain ⟨-, -, hrules, -⟩ := create_eq_ok hstreamOff hcreate
    rw [tokenizeStream_result, tokenizeStream_result, hoff, hon]
    rcases emission_withSkip (by rw [hrules]; exact htable)
        (within_of_create hstreamOff hopen hcreate) with
      ⟨hsame, hfailure⟩ | ⟨e, last, hshows, hfailure, hcollect, ⟨input, hinput, -, -, hwithin⟩, hfault,
        hrest, hlocation, hemission⟩
    · refine ⟨fun _ => congrArg Emission.result hsame, fun e hresult hshows => ?_⟩
      exact absurd hshows (hfailure e (Emission.result_eq_error_iff.1 hresult))
    · refine ⟨fun hnone => absurd hshows (hnone e (Emission.result_eq_error_iff.2 hfailure)), ?_⟩
      intro e' hresult _
      rw [Emission.result_eq_error_iff, hfailure] at hresult
      obtain rfl : e = e' := Failure.lexical.inj (Option.some.inj hresult)
      rw [show s.file = setup.sourceName from congrArg Rules.file hrules] at hlocation
      -- the text of the error is left of some line, so a line has been read
      generalize hbehind : input.stream.chunks = behind at hwithin
      cases hwithin with
      | first _ hnil => exact absurd hnil hrest
      | @line before front _ chunk line hreads hlines hdecode hnumber hline =>
        rw [hnumber] at hlocation
        refine ⟨s, last, before.length + 1, before, behind, chunk, line, front, last.cursor.rest,
          hcreate, ?_, hlocation, ?_, rfl, hreads, hlines, hdecode, hline, hnumber, rfl,
          ⟨input, hinput, hbehind⟩, hemission⟩
        · rw [tokenize, hcollect]
        · rw [LexicalError.diagnostic, hfault]
          rfl

/-- A marked stream with number signs in a literal, in a comment and twice outside of these; the
first run fails at the first of the two.  And a stream on which both runs fail, inside a comment
that holds the only number sign. -/
theorem tokenizeStream_skipping_comment :
    ∃ (setup setup' : Setup) (stream stream' : Stream) (e : LexicalError) (last : Session),
      setup.stream = some stream ∧ setup'.stream = some stream' ∧
      setup.mark = .mark .utf8 ∧ setup.table = none ∧
      (tokenizeStream (setup.withSkip false)).result = .error (.lexical e) ∧ e.ShowsDirective ∧
      e.location = some ⟨namelessSource, 2⟩ ∧ last.cursor.rest = "# d".toList ∧
      ((setup.withSkip true).emission none).tokens.map (fun t => t.text) =
        ["a".toList, "\"# b\"".toList, "++".toList, "x".toList, "z".toList, endText] ∧
      (setup.withSkip true).emission none =
        ((last.withSkip true).dropLine.emission .source).preceded
          ((setup.withSkip false).emission none).tokens ∧
      (tokenizeStream (setup'.withSkip false)).result =
        .error (.lexical ⟨.openBlock, some ⟨namelessSource, 1⟩⟩) ∧
      (tokenizeStream (setup'.withSkip true)).result =
        (tokenizeStream (setup'.withSkip false)).result := by
  let stream := Stream.ofText "\uFEFFa \"# b\" /* # c\n */ ++ # d\nx # y\nz".toList
  let setup : Setup := { stream := some stream, mark := .mark .utf8 }
  let e : LexicalError := ⟨.noToken "# d".toList, some ⟨namelessSource, 2⟩⟩
  have hfails : (tokenizeStream (setup.withSkip false)).result = .error (.lexical e) := by
    decide +kernel
  have hshows : e.ShowsDirective := by decide
  obtain ⟨s, last, k, before, behind, chunk, line, front, dropped, -, -, -, htext, -, -, -, -, -, -,
    hrest, -, hemission⟩ := (@tokenizeStream_skipping setup stream rfl rfl rfl).2 e hfails hshows
  have hdropped : last.cursor.rest = "# d".toList :=
    hrest.trans (List.append_cancel_left htext).symm
  let stream' := Stream.ofText "a /* # b".toList
  let setup' : Setup := { stream := some stream' }
  have hopen : (tokenizeStream (setup'.withSkip false)).result =
      .error (.lexical ⟨.openBlock, some ⟨namelessSource, 1⟩⟩) := by
    decide +kernel
  refine ⟨setup, setup', stream, stream', e, last, rfl, rfl, rfl, rfl, hfails, hshows, rfl, hdropped,
    by decide +kernel, hemission, hopen, ?_⟩
  refine (@tokenizeStream_skipping setup' stream' rfl rfl rfl).1 ?_
  intro e' he'
  obtain rfl := Failure.lexical.inj (Except.error.inj (hopen.symm.trans he'))
  decide

end Session

end ScriptLexer
