import ScriptLexer.Proofs.Cursor.Reading
import ScriptLexer.Proofs.Lexeme.Boundary
import ScriptLexer.Proofs.Session.Ahead
import ScriptLexer.Tokenize

/-!
# A source is read line by line

All tokens of an open stream are the tokens of its lines, in order, and then the token that ends the
source (`collect_eq_exhaust`).  A session asks for them one by one and reads a line whenever the last
one is used up; here the lines come first.  So a statement about a whole source is proved by
induction on its lines.
-/

namespace ScriptLexer

/-- No lexeme ends a source. -/
lemma Lexeme.kind_ne_endOfFile {table : Table} {caseless : Bool} {line : Text} {l : Lexeme}
    (h : read table caseless line = .ok l) : l.kind ≠ .endOfFile := by
  cases form_of_read h with
  | literal _ => simp
  | number _ _ =>
    simp only [Number.lexeme, Number.kind]
    split_ifs <;> simp
  | word _ _ _ hword =>
    simp only [Word.read?, Option.ite_none_left_eq_some, Option.some.injEq] at hword
    obtain ⟨-, rfl⟩ := hword
    simp only [Word.kind]
    split <;> simp
  | symbol _ _ _ hsymbol =>
    obtain ⟨entry, -, rfl⟩ := Option.map_eq_some_iff.1 hsymbol
    simp

lemma Cursor.kind_ne_endOfFile {r : Rules} {c : Cursor} {t : Token}
    (h : (scan r c).found = .ok (some t)) : t.kind ≠ .endOfFile := by
  obtain ⟨code, l, -, -, -, hread, rfl, -⟩ := scan_eq_some h
  exact Lexeme.kind_ne_endOfFile hread

namespace Session

/-! ## Reading all tokens, step by step -/

variable {s s' after : Session} {t : Token}

/-- One call, and then the others unless it ends the source. -/
lemma collect_eq (s : Session) :
    s.collect =
      match s.next with
      | (.error failure, after) => (.error failure, after)
      | (.ok t, after) =>
        if t.kind = .endOfFile then (.ok [t], after)
        else (after.collect.1.map (t :: ·), after.collect.2) := by
  rw [collect]
  split
  · rename_i hnext
    rw [hnext]
  · rename_i t after hnext
    rw [hnext]
    dsimp only
    split_ifs
    · rfl
    · split <;> rename_i hlast <;> simp [hlast, Except.map]

lemma collect_of_error {failure : Failure} (h : s.next = (.error failure, after)) :
    s.collect.1 = .error failure := by
  rw [collect_eq, h]

/-- One token, and then the others unless it ends the source. -/
lemma collect_of_ok (h : s.next = (.ok t, after)) :
    s.collect.1 = if t.kind = .endOfFile then .ok [t] else after.collect.1.map (t :: ·) := by
  rw [collect_eq, h]
  dsimp only
  split_ifs <;> rfl

/-- Sessions that agree have the same tokens before them. -/
lemma Agrees.collect_eq (h : Agrees s s') : s.collect.1 = s'.collect.1 := by
  induction hsize : s.pending using Nat.strong_induction_on generalizing s s' with
  | _ size ih =>
    subst hsize
    cases hnext : s.next with
    | mk found next =>
      cases hnext' : s'.next with
      | mk found' next' =>
        obtain ⟨hfound, hafter⟩ := h
        rw [hnext, hnext'] at hfound hafter
        obtain rfl : found = found' := hfound
        cases found with
        | error failure => rw [collect_of_error hnext, collect_of_error hnext']
        | ok t =>
          rw [collect_of_ok hnext, collect_of_ok hnext']
          split_ifs with hend
          · rfl
          · rw [ih _ (pending_of_next hnext hend) hafter.agrees rfl]

/-! ## Lines first -/

section Stream

variable {input : Input} {last : Cursor} {ts : List Token}

/-- A token on the line comes first. -/
lemma collect_of_scan_some (hinput : s.input = some input) (hopen : input.stream.isClosed = false)
    (h : (s.cursor.scan s.rules).found = .ok (some t)) :
    s.collect.1 =
      (s.moved input (s.cursor.scan s.rules).cursor input.stream.chunks).collect.1.map (t :: ·) := by
  obtain ⟨hfound, hafter⟩ := next_of_open hinput hopen
  rw [Cursor.next_of_scan_some _ _ h] at hfound hafter
  have hnext : s.next = (.ok t, s.next.2) := Prod.ext hfound rfl
  rw [collect_of_ok hnext, if_neg (Cursor.kind_ne_endOfFile h), hafter.agrees.collect_eq]

/-- What is left of the line comes first, and then what is found behind it. -/
lemma collect_of_drains {r : Rules} {c : Cursor} (h : Cursor.Drains r c ts last)
    (hinput : s.input = some input) (hopen : input.stream.isClosed = false) (hrules : s.rules = r)
    (hcursor : s.cursor = c) :
    s.collect.1 = (s.moved input last input.stream.chunks).collect.1.map (ts ++ ·) := by
  induction h generalizing s with
  | done hscan =>
    subst hrules hcursor
    have hagrees := agrees_moved hinput hopen (Cursor.outcome_next_scan _ _ hscan)
    rw [hagrees.collect_eq]
    cases (s.moved input (s.cursor.scan s.rules).cursor input.stream.chunks).collect.1 <;> rfl
  | @token c last t ts hscan _ ih =>
    subst hrules hcursor
    rw [collect_of_scan_some hinput hopen hscan,
      ih (s := s.moved input (s.cursor.scan s.rules).cursor input.stream.chunks) rfl
        (moved_rules hinput _ _) rfl]
    change Except.map _ ((s.moved input last input.stream.chunks).collect.1.map (ts ++ ·)) = _
    cases (s.moved input last input.stream.chunks).collect.1 <;> rfl

/-- A fault on the line is met behind the tokens in front of it. -/
lemma collect_of_fails {e : LexicalError} {r : Rules} {c : Cursor} (h : Cursor.Fails r c e)
    (hinput : s.input = some input) (hopen : input.stream.isClosed = false) (hrules : s.rules = r)
    (hcursor : s.cursor = c) : s.collect.1 = .error (.lexical e) := by
  induction h generalizing s with
  | fault hscan =>
    subst hrules hcursor
    obtain ⟨hfound, -⟩ := next_of_open hinput hopen
    rw [Cursor.found_next_of_scan_error _ _ hscan] at hfound
    exact collect_of_error (Prod.ext hfound rfl)
  | token hscan _ ih =>
    subst hrules hcursor
    rw [collect_of_scan_some hinput hopen hscan,
      ih (s := s.moved input (s.cursor.scan s.rules).cursor input.stream.chunks) rfl
        (moved_rules hinput _ _) rfl]
    rfl

/-- It is enough to look at the places behind a line. -/
lemma collect_eq_of_drains (hinput : s.input = some input) (hopen : input.stream.isClosed = false)
    (h : ∀ ts last, Cursor.Drains s.rules s.cursor ts last →
      (s.moved input last input.stream.chunks).collect.1 =
        ((last.exhaust s.rules input.marked input.stream.chunks).finish s.rules).mapError .lexical) :
    s.collect.1 = ((s.cursor.exhaust s.rules input.marked input.stream.chunks).finish
      s.rules).mapError .lexical := by
  rw [← Cursor.exhaust_andThen]
  cases hdrain : s.cursor.drain s.rules with
  | error e =>
    rw [collect_of_fails (Cursor.drain_eq_error_iff.1 hdrain) hinput hopen rfl rfl]
    rfl
  | ok p =>
    obtain ⟨ts, last⟩ := p
    have hdrains := Cursor.drain_eq_ok_iff.1 hdrain
    rw [collect_of_drains hdrains hinput hopen rfl rfl, h ts last hdrains,
      Reading.finish_andThen_ok]
    cases (last.exhaust s.rules input.marked input.stream.chunks).finish s.rules <;> rfl

/-- Where the reads give nothing more, the source ends. -/
lemma collect_of_end (hinput : s.input = some input) (hopen : input.stream.isClosed = false)
    (hrest : s.cursor.scan s.rules = ⟨.ok none, s.cursor, []⟩)
    (hend : ∀ chunk ∈ input.stream.chunks.head?, chunk.isEmpty = true) :
    s.collect.1 = (Reading.finish s.rules (.ok ([], s.cursor))).mapError .lexical := by
  obtain ⟨hfound, -⟩ := next_of_open hinput hopen
  rw [Cursor.next_of_end (by rw [hrest]) hend, hrest] at hfound
  simp only [Reading.finish, Except.bind]
  cases hfinish : s.cursor.finish s.rules with
  | error e =>
    rw [hfinish] at hfound
    exact collect_of_error (Prod.ext hfound rfl)
  | ok t =>
    rw [hfinish] at hfound
    have hnext : s.next = (.ok t, s.next.2) := Prod.ext hfound rfl
    rw [collect_of_ok hnext, if_pos (Cursor.kind_of_finish hfinish)]
    rfl

/-- A closed stream gives nothing but what is left of the line. -/
lemma collect_of_closed (hinput : s.input = some input) (hclosed : input.stream.isClosed = true)
    (hnil : s.cursor.rest = []) : s.collect.1 = .error (.closedStream input.stream.origin) :=
  collect_of_error (Prod.ext (next_of_closed_of_nil hinput hclosed hnil) rfl)

/-- Behind a line the next read is looked at. -/
lemma collect_of_chunk {chunk : Chunk} {chunks : List Chunk} (hinput : s.input = some input)
    (hopen : input.stream.isClosed = false) (hchunks : input.stream.chunks = chunk :: chunks)
    (hrest : s.cursor.scan s.rules = ⟨.ok none, s.cursor, []⟩) (hchunk : chunk.isEmpty = false) :
    s.collect.1 =
      match chunk.decode with
      | .error fault =>
        .error (.lexical ⟨.encoding fault, some ⟨s.rules.file, s.cursor.lineNumber + 1⟩⟩)
      | .ok line =>
        (s.moved input (s.cursor.start (s.cursor.unmarked input.marked line)) chunks).collect.1 := by
  have hscan : (s.cursor.scan s.rules).found = .ok none := by rw [hrest]
  cases hdecode : chunk.decode with
  | error fault =>
    obtain ⟨hfound, -⟩ := next_of_open hinput hopen
    rw [hchunks, Cursor.found_next_of_decode_error hscan hchunk hdecode, hrest] at hfound
    exact collect_of_error (Prod.ext hfound rfl)
  | ok line =>
    have houtcome : (s.cursor.next s.rules input.marked (chunk :: chunks)).outcome = _ :=
      Cursor.outcome_next_line hscan hchunk hdecode
    rw [hrest, ← hchunks] at houtcome
    exact (agrees_moved hinput hopen houtcome.symm).collect_eq

/-- **A source is read line by line.**  All tokens of an open stream are those of the line at hand
and of the reads to come, and the one that ends the source. -/
theorem collect_eq_exhaust (hinput : s.input = some input)
    (hopen : input.stream.isClosed = false) :
    s.collect.1 = ((s.cursor.exhaust s.rules input.marked input.stream.chunks).finish
      s.rules).mapError .lexical := by
  induction hchunks : input.stream.chunks generalizing s input with
  | nil =>
    rw [← hchunks]
    refine collect_eq_of_drains hinput hopen fun ts last hdrains => ?_
    have hrules := moved_rules hinput last input.stream.chunks
    rw [collect_of_end (s := s.moved input last input.stream.chunks) rfl hopen
      (by rw [hrules]; exact hdrains.scan_last) (by simp [hchunks]), hrules, hchunks,
      Cursor.exhaust_nil, hdrains.drain_last]
    rfl
  | cons chunk chunks ih =>
    rw [← hchunks]
    refine collect_eq_of_drains hinput hopen fun ts last hdrains => ?_
    have hrules := moved_rules hinput last input.stream.chunks
    have hrest : (s.moved input last input.stream.chunks).cursor.scan
        (s.moved input last input.stream.chunks).rules = ⟨.ok none, last, []⟩ := by
      rw [hrules]
      exact hdrains.scan_last
    rw [hchunks, Cursor.exhaust, hdrains.drain_last, Reading.andThen_ok_nil, ← hchunks]
    cases hchunk : chunk.isEmpty with
    | true =>
      rw [collect_of_end rfl hopen hrest (by simp [hchunks, hchunk]), hrules]
      rfl
    | false =>
      rw [collect_of_chunk rfl hopen hchunks hrest hchunk, hrules]
      cases hdecode : chunk.decode with
      | error fault => rfl
      | ok line =>
        -- the line has been started, and fewer reads are to come
        let started := last.start (last.unmarked input.marked line)
        have hlater := ih (s := s.moved input started chunks) rfl hopen rfl
        rw [moved_rules hinput] at hlater
        exact hlater

end Stream

/-! ## Whole sources -/

lemma tokenize_fst (s : Session) : s.tokenize.1 = s.collect.1 := by
  unfold tokenize
  split <;> simp_all

end Session

/-- The rules under which a stream is read. -/
def Session.Setup.rules (setup : Session.Setup) : Rules where
  file := setup.sourceName
  streaming := true
  options := setup.options
  table := setup.table.getD Table.standard

/-- A new session with a stream. -/
lemma Session.create_eq_ok {setup : Session.Setup} {stream : Stream} {s : Session}
    (hstream : setup.stream = some stream) (h : create setup = .ok s) :
    s.closed = false ∧ s.input = some ⟨stream, setup.owned, setup.mark = .mark .utf8⟩ ∧
      s.rules = setup.rules ∧ s.cursor = {} := by
  unfold create at h
  simp only [hstream] at h
  split at h
  · simp at h
  · obtain rfl := Except.ok.inj h
    exact ⟨rfl, rfl, rfl, rfl⟩

/-- With a mark that is accepted a session can be made. -/
lemma Session.exists_create {setup : Session.Setup} (hmark : setup.mark.refusal? = none) :
    ∃ s, create setup = .ok s := by
  unfold create
  cases hstream : setup.stream with
  | none => exact ⟨_, rfl⟩
  | some stream =>
    simp only [hmark]
    exact ⟨_, rfl⟩

lemma tokenizeStream_of_create {setup : Session.Setup} {s : Session}
    (h : Session.create setup = .ok s) : (tokenizeStream setup).result = s.collect.1 := by
  unfold tokenizeStream
  rw [h]
  exact Session.tokenize_fst s

/-- An open stream whose mark is accepted is read from the start. -/
theorem tokenizeStream_eq (setup : Session.Setup) {stream : Stream}
    (hstream : setup.stream = some stream) (hopen : stream.isClosed = false)
    (hmark : setup.mark.refusal? = none) :
    (tokenizeStream setup).result =
      ((({} : Cursor).exhaust setup.rules (setup.mark = .mark .utf8) stream.chunks).finish
        setup.rules).mapError .lexical := by
  obtain ⟨s, hcreate⟩ := Session.exists_create hmark
  obtain ⟨-, hinput, hrules, hcursor⟩ := Session.create_eq_ok hstream hcreate
  have hcollect := Session.collect_eq_exhaust hinput hopen
  rw [hrules, hcursor] at hcollect
  exact (tokenizeStream_of_create hcreate).trans hcollect

/-- A closed stream is not read. -/
lemma tokenizeStream_of_closed {setup : Session.Setup} {stream : Stream}
    (hstream : setup.stream = some stream) (hclosed : stream.isClosed = true)
    (hmark : setup.mark.refusal? = none) :
    (tokenizeStream setup).result = .error (.closedStream stream.origin) := by
  obtain ⟨s, hcreate⟩ := Session.exists_create hmark
  obtain ⟨-, hinput, -, hcursor⟩ := Session.create_eq_ok hstream hcreate
  rw [tokenizeStream_of_create hcreate]
  exact Session.collect_of_closed hinput hclosed (by rw [hcursor])

/-- The session that is made for a file. -/
def OpenedFile.setup (opened : OpenedFile) (path : Text) (options : Options) : Session.Setup where
  file := path
  stream := some (Stream.ofFile opened.rest)
  mark := .mark opened.mark
  options := options
  owned := true

/-- A file that was opened is closed at once if its mark is refused; else a new session is asked for
all tokens and closed. -/
lemma tokenizeFile_of_opened {files : FileSystem} {path : Text} {opened : OpenedFile}
    (h : OpenedFile.open files path = .ok opened) (options : Options) :
    (∃ e, (tokenizeFile files path options).result = .error (.lexical e) ∧
        (tokenizeFile files path options).stream = some (Stream.ofFile opened.rest).close) ∨
      ∃ s s', Session.create (opened.setup path options) = .ok s ∧ Session.Alike s s' ∧
        (tokenizeFile files path options).result = s'.tokenize.1 ∧
        (tokenizeFile files path options).stream =
          s'.tokenize.2.close.input.map fun input => input.stream := by
  unfold tokenizeFile Session.openFile
  simp only [h]
  cases hcreate : Session.create (opened.setup path options) with
  | error e =>
    left
    refine ⟨e, ?_⟩
    unfold OpenedFile.setup at hcreate
    simp only [hcreate]
    exact ⟨trivial, trivial⟩
  | ok s =>
    right
    refine ⟨s, { s with log := s.log ++ [.opened path opened.mark] }, rfl, ⟨_, rfl⟩, ?_⟩
    unfold OpenedFile.setup at hcreate
    simp only [hcreate]
    exact ⟨trivial, trivial⟩

/-- The tokens of a text that is read as a stream. -/
def tokenizeText (file : Text) (options : Options) (t : Text) : Except Failure (List Token) :=
  (tokenizeStream { file, stream := some (Stream.ofText t), options }).result

/-- The rules under which a text is read as a stream. -/
def textRules (file : Text) (options : Options) : Rules where
  file := Session.Setup.sourceName { file }
  streaming := true
  options := options
  table := Table.standard

/-- The lines of a text are read from the start. -/
theorem tokenizeText_eq (file : Text) (options : Options) (t : Text) :
    tokenizeText file options t =
      ((({} : Cursor).readText (textRules file options) t).finish
        (textRules file options)).mapError .lexical :=
  tokenizeStream_eq { file, stream := some (Stream.ofText t), options } rfl rfl rfl

end ScriptLexer
