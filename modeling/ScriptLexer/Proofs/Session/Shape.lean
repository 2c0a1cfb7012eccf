import ScriptLexer.Proofs.Lexeme.Shape
import ScriptLexer.Proofs.Session.Calls

/-!
# Every token is well formed

Whatever a client asks for, and in whatever state the session is, each token that it gets has the
shape of its kind under the session's table and options.  A token is a lexeme that was cut off some
line, or the one that ends the source; and table and options never change.
-/

namespace ScriptLexer

namespace Cursor

variable {r : Rules} {c : Cursor} {t : Token}

lemma wellFormed_of_scan (h : (scan r c).found = .ok (some t)) :
    t.toLexeme.WellFormed r.table r.options.caselessOperators := by
  obtain ⟨code, l, -, -, -, hread, rfl, -⟩ := scan_eq_some h
  exact Lexeme.wellFormed_of_read hread

lemma wellFormed_of_finish (h : c.finish r = .ok t) (table : Table) (caseless : Bool) :
    t.toLexeme.WellFormed table caseless := by
  unfold finish at h
  split at h
  · cases h
  · obtain rfl := Except.ok.inj h
    exact ⟨rfl, rfl⟩

lemma wellFormed_of_next {marked : Bool} {chunks : List Chunk}
    (h : (next r marked c chunks).found = .ok t) :
    t.toLexeme.WellFormed r.table r.options.caselessOperators := by
  rcases next_eq_ok h with ⟨line, hscan, -⟩ | ⟨line, -, -, hfinish, -⟩
  · exact wellFormed_of_scan hscan
  · exact wellFormed_of_finish hfinish _ _

end Cursor

namespace Session

/-- The session uses this table and these options. -/
structure Uses (table : Table) (options : Options) (s : Session) : Prop where
  table : s.table = table
  options : s.options = options

namespace Uses

variable {table : Table} {options : Options} {s : Session}

lemma of_moves {s' : Session} (hmoves : Moves s s') (h : Uses table options s) :
    Uses table options s' := by
  obtain ⟨cursor, chunks, log, rfl⟩ := hmoves
  exact ⟨h.table, h.options⟩

lemma kept (table : Table) (options : Options) : Kept (Uses table options) := Kept.of_moves of_moves

lemma close (h : Uses table options s) : Uses table options s.close := by
  unfold Session.close
  split
  · exact h
  · split
    · split_ifs
      · exact ⟨h.table, h.options⟩
      · exact ⟨h.table, h.options⟩
    · exact ⟨h.table, h.options⟩

/-- The tokens that such a session gives are well formed. -/
lemma gives (table : Table) (options : Options) :
    Gives (Uses table options) fun t =>
      t.toLexeme.WellFormed table options.caselessOperators := by
  have hline : ∀ {s : Session} {t : Token}, Uses table options s →
      s.nextFromLine.1 = .ok (some t) → t.toLexeme.WellFormed table options.caselessOperators := by
    intro s t hs h
    obtain ⟨hscan, -, -⟩ := nextFromLine_eq_ok (Prod.ext h rfl)
    have hshape := Cursor.wellFormed_of_scan hscan
    simp only [rules, hs.table, hs.options] at hshape
    exact hshape
  constructor
  · exact hline
  · intro s t hs h
    obtain ⟨input, -, ⟨-, hfound⟩ | ⟨-, hfound⟩⟩ := next_eq_ok h
    · exact hline hs hfound
    · have hshape := Cursor.wellFormed_of_next hfound
      simp only [rules, hs.table, hs.options] at hshape
      exact hshape

lemma of_create {setup : Setup} (h : create setup = .ok s) :
    Uses (setup.table.getD Table.standard) setup.options s := by
  unfold create at h
  simp only at h
  split at h
  · obtain rfl := Except.ok.inj h
    exact ⟨rfl, rfl⟩
  · split at h
    · cases h
    · obtain rfl := Except.ok.inj h
      exact ⟨rfl, rfl⟩

lemma wellFormed_of_tokenize (h : Uses table options s) {ts : List Token}
    (hts : s.tokenize.1 = .ok ts) :
    ∀ t ∈ ts, t.toLexeme.WellFormed table options.caselessOperators :=
  (gives table options).collect (kept table options) h ((tokenize_fst s).symm.trans hts)

end Uses

end Session

/-! ## Whole sources -/

variable {ts : List Token}

lemma wellFormed_of_tokenizeLine {line : Text} {options : Options}
    (h : (tokenizeLine line options).result = .ok ts) :
    ∀ t ∈ ts, t.toLexeme.WellFormed Table.standard options.caselessOperators := by
  obtain ⟨s, hcreate⟩ : ∃ s, Session.create { options } = .ok s := ⟨_, rfl⟩
  have hnew : Session.Uses Table.standard options s := Session.Uses.of_create hcreate
  unfold tokenizeLine at h
  simp only [hcreate] at h
  have hkept := Session.Uses.kept Table.standard options
  exact (Session.Uses.gives Table.standard options).drainLine hkept (hkept.setLine line hnew)
    (Prod.ext h rfl)

lemma wellFormed_of_tokenizeStream {setup : Session.Setup}
    (h : (tokenizeStream setup).result = .ok ts) :
    ∀ t ∈ ts, t.toLexeme.WellFormed (setup.table.getD Table.standard)
      setup.options.caselessOperators := by
  unfold tokenizeStream at h
  split at h
  · cases h
  · rename_i s hcreate
    exact (Session.Uses.of_create hcreate).wellFormed_of_tokenize h

lemma wellFormed_of_tokenizeFile {files : FileSystem} {path : Text} {options : Options}
    (h : (tokenizeFile files path options).result = .ok ts) :
    ∀ t ∈ ts, t.toLexeme.WellFormed Table.standard options.caselessOperators := by
  cases hopened : OpenedFile.open files path with
  | error fault =>
    unfold tokenizeFile Session.openFile at h
    simp only [hopened] at h
    cases h
  | ok opened =>
    rcases tokenizeFile_of_opened hopened options with ⟨e, hresult, -⟩ |
      ⟨s, s', hcreate, halike, hresult, -⟩
    · rw [hresult] at h
      cases h
    · rw [hresult] at h
      exact ((Session.Uses.of_create hcreate).of_moves halike.moves).wellFormed_of_tokenize h

namespace Session

/-- **Every token is well formed.**  Let a client make any calls, in any state of the session.  All
tokens that it gets have the shape of their kinds, under the table and the options of the session.
The same holds for the tokens of a single line, of a stream and of a file. -/
theorem given_wellFormed :
    (∀ (c : Client) (calls : List Call), ∀ t ∈ given (c.answers calls),
      t.toLexeme.WellFormed c.session.table c.session.options.caselessOperators) ∧
    (∀ line options ts, (tokenizeLine line options).result = .ok ts → ∀ t ∈ ts,
      t.toLexeme.WellFormed Table.standard options.caselessOperators) ∧
    (∀ setup ts, (tokenizeStream setup).result = .ok ts → ∀ t ∈ ts,
      t.toLexeme.WellFormed (setup.table.getD Table.standard) setup.options.caselessOperators) ∧
    ∀ files path options ts, (tokenizeFile files path options).result = .ok ts → ∀ t ∈ ts,
      t.toLexeme.WellFormed Table.standard options.caselessOperators := by
  refine ⟨fun c calls => ?_, ?_, ?_, ?_⟩
  · have hc : Uses c.session.table c.session.options c.session := ⟨rfl, rfl⟩
    exact (Uses.gives _ _).of_mem_given (Uses.kept _ _) Uses.close hc calls
  · intro line options ts
    exact wellFormed_of_tokenizeLine
  · intro setup ts
    exact wellFormed_of_tokenizeStream
  · intro files path options ts
    exact wellFormed_of_tokenizeFile

/-- A number that leaves two dots to an operator, a comparison written with a capital, the one name
that may begin with two underscores, a literal with a doubled quote, and the end of the source. -/
theorem given_wellFormed_mixed :
    ∃ (c : Client) (calls : List Call),
      (given (c.answers calls)).map (fun t => (t.kind, t.text)) =
        [(.intLiteral, "1".toList), (.operator .range, "..".toList), (.floatLiteral, "2.".toList),
          (.operator .caselessEqual, "=I=".toList), (.identifier, "__STACK__".toList),
          (.stringLiteral, "'a''b'".toList), (.endOfFile, endText)] ∧
      ∀ t ∈ given (c.answers calls),
        t.toLexeme.WellFormed c.session.table c.session.options.caselessOperators := by
  let stream := Stream.ofText "1..2. =I= __STACK__\n'a''b' // c".toList
  let s : Session :=
    { file := "f".toList
      options := {}
      table := Table.standard
      input := some { stream, owned := true, marked := false } }
  let calls : List Call :=
    [.next, .nextFromLine, .iterate, .advance 0, .tokenize, .close, .advance 0]
  refine ⟨Client.mk s [], calls, ?_, given_wellFormed.1 _ _⟩
  decide +kernel

end Session

end ScriptLexer
