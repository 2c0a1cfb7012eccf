import ScriptLexer.Proofs.Cursor.Reading
import ScriptLexer.Proofs.Lexeme.Symbol

/-!
# What scanning takes from the rules

Rules for a stream and rules for single lines may give the same meaning to text.  Then they differ
in two things only: directives end a line of a stream, if they are skipped at all, and faults in a
stream have a place.

A directive begins with a character with which no lexeme of the language begins.  So a line that is
read without a fault, directives not being skipped, holds no directive, and it is read in the same
way if they are (`exhaust_eq_ok`).

Any two rules can be compared up to the first token or fault that one of them tells differently:
`Rules.SameUpTo` is about one scan, and `next_of_sameUpTo` about the next token of a source.
-/

namespace ScriptLexer

/-! ## The character that begins a directive -/

/-- No operator of the language is spelled with a number sign at the start. -/
lemma Table.head?_spelling_ne_directiveMark (o : Operator) :
    (standard.spelling (.operator o)).head? ≠ some directiveMark := by
  have hall : (Operator.all.all fun o =>
      (standard.spelling (.operator o)).head? != some directiveMark) = true := by
    decide +kernel
  simp only [List.all_eq_true, bne_iff_ne] at hall
  exact hall o (Operator.mem_all o)

lemma Symbol.read?_directiveMark (caseless : Bool) (t : Text) :
    read? .standard caseless (directiveMark :: t) = none := by
  refine Option.map_eq_none_iff.2 (Option.eq_none_iff_forall_ne_some.2 fun entry hentry => ?_)
  obtain ⟨hmem, u, hline⟩ := longest?_mem hentry
  have hspelling := Table.mem_operators hmem
  obtain ⟨a, text, htext⟩ :=
    List.exists_cons_of_ne_nil (hspelling ▸ Table.standard.spelling_ne_nil (.operator entry.1))
  rw [htext] at hline hspelling
  obtain ⟨rfl, -⟩ := List.cons.inj hline
  exact Table.head?_spelling_ne_directiveMark entry.1 (by rw [← hspelling]; rfl)

/-- No lexeme of the language begins with a number sign. -/
lemma Lexeme.read_directiveMark (caseless : Bool) (t : Text) :
    read .standard caseless (directiveMark :: t) = .error (.noToken (directiveMark :: t)) := by
  have hliteral : Literal.read? (directiveMark :: t) = none := rfl
  have hnumber : Number.begins (directiveMark :: t) = false := by cases t <;> rfl
  have hname : Name.begins (directiveMark :: t) = false := rfl
  unfold read
  simp only [hliteral, hnumber, hname, Symbol.read?_directiveMark, Bool.false_eq_true, if_false]

namespace Rules

/-- Whether directives end a line. -/
def directives (r : Rules) : Bool := r.streaming && r.options.skipDirectives

/-- The rules give the same meaning to the same text, directives apart. -/
structure SameLanguage (r r' : Rules) : Prop where
  file : r.file = r'.file
  table : r.table = r'.table
  caseless : r.options.caselessOperators = r'.options.caselessOperators

end Rules

namespace Cursor

variable {r r' : Rules} {c : Cursor}

lemma isDirective_eq (r : Rules) (line : Text) :
    isDirective r line = (r.directives && line.head? == some directiveMark) := rfl

lemma isDirective_eq_false (hdir : r.directives = false) (line : Text) :
    isDirective r line = false := by
  rw [isDirective_eq, hdir, Bool.false_and]

/-! ## One scan -/

/-- Text outside comments is scanned in the same way if the same is a directive and the same lexeme
is read. -/
lemma scanCode_congr (hfile : r.file = r'.file)
    (hdir : isDirective r c.rest = isDirective r' c.rest)
    (hread : c.rest ≠ [] → isDirective r c.rest = false →
      Lexeme.read r.table r.options.caselessOperators c.rest =
        Lexeme.read r'.table r'.options.caselessOperators c.rest) :
    scanCode r c = scanCode r' c := by
  unfold scanCode
  rw [← hdir]
  split_ifs with hnil hskip
  · rfl
  · rw [hfile]
  · rw [hread hnil (Bool.eq_false_iff.2 hskip)]
    simp only [token, hfile]

/-- Whether a directive is skipped is all that makes a difference to text outside comments. -/
lemma scanCode_of_sameLanguage (h : r.SameLanguage r')
    (hdir : isDirective r c.rest = isDirective r' c.rest) : scanCode r c = scanCode r' c :=
  scanCode_congr h.file hdir fun _ _ => by rw [h.table, h.caseless]

/-- Whether directives end a line is all that makes a difference to a scan. -/
lemma scan_eq_of_directives (h : r.SameLanguage r') (hdir : r.directives = r'.directives)
    (c : Cursor) : scan r c = scan r' c := by
  refine scan_congr_rules fun rest _ => scanCode_of_sameLanguage h ?_
  rw [isDirective_eq, isDirective_eq, hdir]

/-- A directive is no lexeme, so where it is not skipped nothing known stands there. -/
lemma scanCode_of_mark (htable : r.table = .standard) (hdir : isDirective r c.rest = false)
    (hmark : c.rest.head? = some directiveMark) :
    scanCode r c = ⟨.error (.noToken c.rest), c, []⟩ := by
  obtain ⟨t, ht⟩ := List.head?_eq_some_iff.1 hmark
  refine scanCode_of_read_error (by simp [ht]) hdir ?_
  rw [htable, ht, Lexeme.read_directiveMark]

lemma head?_of_isDirective {line : Text} (h : isDirective r line = true) :
    line.head? = some directiveMark := by
  rw [isDirective_eq, Bool.and_eq_true, beq_iff_eq] at h
  exact h.2

/-- What is found without skipping directives is found if they are skipped. -/
lemma scanCode_of_ok {found : Option Token} (h : r.SameLanguage r') (htable : r.table = .standard)
    (hdir : r.directives = false) (hfound : (scanCode r c).found = .ok found) :
    (scanCode r' c).found = .ok found ∧ (scanCode r' c).cursor = (scanCode r c).cursor := by
  have hcode := isDirective_eq_false hdir c.rest
  cases hdir' : isDirective r' c.rest with
  | true =>
    rw [scanCode_of_mark htable hcode (head?_of_isDirective hdir')] at hfound
    cases hfound
  | false =>
    rw [← scanCode_of_sameLanguage h (hcode.trans hdir'.symm)]
    exact ⟨hfound, rfl⟩

lemma scan_of_ok {found : Option Token} (h : r.SameLanguage r') (htable : r.table = .standard)
    (hdir : r.directives = false) (hfound : (scan r c).found = .ok found) :
    (scan r' c).found = .ok found ∧ (scan r' c).cursor = (scan r c).cursor := by
  cases hskip : (Comment.skip c.mode c.rest).outcome with
  | stray form line => simp [scan_of_stray hskip] at hfound
  | code rest =>
    obtain ⟨hcode, hcursor⟩ := scan_of_code (r := r) hskip
    obtain ⟨hcode', hcursor'⟩ := scan_of_code (r := r') hskip
    rw [hcode] at hfound
    rw [hcode', hcursor', hcursor]
    exact scanCode_of_ok h htable hdir hfound

/-! ## Lines -/

lemma Drains.of_sameLanguage {ts : List Token} {last : Cursor} (h : r.SameLanguage r')
    (htable : r.table = .standard) (hdir : r.directives = false) (hdrains : Drains r c ts last) :
    Drains r' c ts last := by
  induction hdrains with
  | done hscan =>
    obtain ⟨hscan', hcursor⟩ := scan_of_ok h htable hdir hscan
    rw [← hcursor]
    exact Drains.done hscan'
  | token hscan _ ih =>
    obtain ⟨hscan', hcursor⟩ := scan_of_ok h htable hdir hscan
    rw [← hcursor] at ih
    exact Drains.token hscan' ih

/-- Lines that are read without a fault are read in the same way if directives are skipped. -/
lemma exhaust_eq_ok {marked : Bool} {chunks : List Chunk} {ts : List Token} {last : Cursor}
    (h : r.SameLanguage r') (htable : r.table = .standard) (hdir : r.directives = false)
    (hread : exhaust r marked c chunks = .ok (ts, last)) :
    exhaust r' marked c chunks = .ok (ts, last) := by
  have hdrain : ∀ {c ts last}, drain r c = .ok (ts, last) → drain r' c = .ok (ts, last) := by
    intro c ts last hok
    exact ((drain_eq_ok_iff.1 hok).of_sameLanguage h htable hdir).drain_eq
  induction chunks generalizing c ts last with
  | nil => exact hdrain hread
  | cons chunk chunks ih =>
    rw [exhaust]
    rcases exhaust_cons_eq_ok hread with
      ⟨hchunk, hfirst⟩ | ⟨ts₁, c₁, line, ts₂, hchunk, hfirst, hdecode, hlater, rfl⟩
    · rw [hdrain hfirst, Reading.andThen_ok_ok (if_pos hchunk), List.append_nil]
    · rw [hdrain hfirst]
      refine Reading.andThen_ok_ok ?_
      simp only [hchunk, hdecode, Bool.false_eq_true, if_false]
      exact ih hlater

/-- A fault on a line is the same one, at the place that the rules tell. -/
lemma Fails.of_sameLanguage {e : LexicalError} (h : r.SameLanguage r')
    (hdir : r.directives = r'.directives) (hfails : Fails r c e) :
    Fails r' c ⟨e.fault, c.location r'⟩ := by
  induction hfails with
  | fault hscan =>
    rw [scan_eq_of_directives h hdir] at hscan
    exact Fails.fault hscan
  | @token c t e hscan _ ih =>
    rw [scan_eq_of_directives h hdir] at hscan ih
    have hplace : (scan r' c).cursor.location r' = c.location r' := by
      simp only [location, lineNumber_scan]
    rw [hplace] at ih
    exact Fails.token hscan ih

end Cursor

/-! ## Rules that part at some tokens and faults -/

/-- Tokens and faults at which the runs under two rules may part. -/
structure Parting where
  /-- The runs may part at this token. -/
  token : Token → Prop
  /-- The runs may part at this fault. -/
  fault : Fault → Prop

/-- A line is scanned under `r'` as under `r`, unless something is found under `r` at which the runs
may part. -/
structure Rules.SameUpTo (r r' : Rules) (p : Parting) : Prop where
  file : r'.file = r.file
  streaming : r'.streaming = r.streaming
  scan : ∀ c : Cursor, (∀ t, (c.scan r).found = .ok (some t) → ¬ p.token t) →
    (∀ fault, (c.scan r).found = .error fault → ¬ p.fault fault) → c.scan r' = c.scan r

namespace Cursor

variable {r r' : Rules} {p : Parting} {marked : Bool} {c : Cursor} {chunks : List Chunk}

lemma location_of_sameUpTo (h : r.SameUpTo r' p) (c : Cursor) : c.location r' = c.location r := by
  simp only [location, h.file, h.streaming]

lemma finish_of_sameUpTo (h : r.SameUpTo r' p) (c : Cursor) : c.finish r' = c.finish r := by
  simp only [finish, location_of_sameUpTo h, h.file]

lemma scan_of_next_sameUpTo (h : r.SameUpTo r' p)
    (htoken : ∀ t, (next r marked c chunks).found = .ok t → ¬ p.token t)
    (hfault : ∀ e, (next r marked c chunks).found = .error e → ¬ p.fault e.fault) :
    c.scan r' = c.scan r := by
  refine h.scan c (fun t hscan => htoken t ?_) fun fault hscan =>
    hfault ⟨fault, c.location r⟩ ?_
  · rw [next_of_scan_some marked chunks hscan]
  · rw [found_next_of_scan_error marked chunks hscan]

/-- The next token is the same, and what is left behind it, unless the runs may part there. -/
lemma next_of_sameUpTo (h : r.SameUpTo r' p)
    (htoken : ∀ t, (next r marked c chunks).found = .ok t → ¬ p.token t)
    (hfault : ∀ e, (next r marked c chunks).found = .error e → ¬ p.fault e.fault) :
    next r' marked c chunks = next r marked c chunks := by
  induction chunks generalizing c with
  | nil =>
    have hscan := scan_of_next_sameUpTo h htoken hfault
    unfold next
    simp only [hscan, location_of_sameUpTo h, finish_of_sameUpTo h]
  | cons chunk chunks ih =>
    have hscan := scan_of_next_sameUpTo h htoken hfault
    unfold next at htoken hfault ⊢
    simp only [hscan, location_of_sameUpTo h, finish_of_sameUpTo h, h.file] at htoken hfault ⊢
    split
    · rfl
    · rfl
    · rename_i hfound
      simp only [hfound] at htoken hfault
      split_ifs at htoken hfault ⊢ with hempty
      · rfl
      · cases hdecode : chunk.decode with
        | error fault => rfl
        | ok line =>
          -- both go on with the line that was read
          simp only [hdecode] at htoken hfault
          simp only
          rw [ih htoken hfault]

/-- The lines that hold no more are passed over in the same way. -/
lemma ReadsOn.of_sameUpTo {c' : Cursor} {chunks' : List Chunk} (h : r.SameUpTo r' p)
    (hreads : ReadsOn r marked c chunks c' chunks') : ReadsOn r' marked c chunks c' chunks' := by
  induction hreads with
  | here c chunks => exact ReadsOn.here c chunks
  | @line c c' chunk chunks chunks' line hscan hchunk hdecode _ ih =>
    have hsame : c.scan r' = c.scan r := by
      refine h.scan c (fun t ht => ?_) fun fault hfault => ?_
      · rw [hscan] at ht
        cases ht
      · rw [hscan] at hfault
        cases hfault
    rw [← hsame] at hscan ih
    exact ReadsOn.line hscan hchunk hdecode ih

end Cursor

end ScriptLexer
