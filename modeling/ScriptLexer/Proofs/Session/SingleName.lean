import ScriptLexer.Proofs.Lexeme.Word
import ScriptLexer.Proofs.Session.Respacing
import ScriptLexer.Proofs.Session.Shape

/-!
# Names as a whole

A text is checked as a name by looking at each of its characters, and it is read as a name by the
recognizers, which are tried one after the other behind comments and blanks.  Both agree: a line is
one identifier and nothing else exactly if its text is a name that is no keyword and not kept for
internal use.  The main statement is `Name.recognized_as_validated`.
-/

namespace ScriptLexer

/-! ## Nothing else begins where a name does -/

variable {name : Text}

lemma Comment.front_of_isValid (h : Name.isValid name = true) : front name = .code := by
  match name with
  | [] => cases h
  | [_] => rfl
  | c :: d :: r =>
    have hc : Name.isPart c = true := Name.isPart_of_mem_of_isValid h c List.mem_cons_self
    have hslash : c ≠ '/' := Name.ne_of_isPart hc (by decide)
    have hstar : c ≠ '*' := Name.ne_of_isPart hc (by decide)
    have hplus : c ≠ '+' := Name.ne_of_isPart hc (by decide)
    simp only [front, hslash, hstar, hplus, if_false, ite_self]

lemma Quote.ofChar?_of_isPart {c : Char} (h : Name.isPart c = true) : ofChar? c = none := by
  have hdouble : c ≠ '"' := Name.ne_of_isPart h (by decide)
  have hsingle : c ≠ '\'' := Name.ne_of_isPart h (by decide)
  rw [ofChar?, if_neg hdouble, if_neg hsingle]

/-- Not even behind the letter that may open a literal does a name go on with a quote. -/
lemma Literal.begins_of_isValid (h : Name.isValid name = true) : begins name = false := by
  have hparts := Name.isPart_of_mem_of_isValid h
  have hopening : Opening.read? name = none := by
    match name with
    | [] => rfl
    | [c] =>
      simp only [Opening.read?, Quote.ofChar?_of_isPart (hparts c List.mem_cons_self), ite_self]
    | c :: d :: r =>
      simp only [Opening.read?, Quote.ofChar?_of_isPart (hparts c (by simp)),
        Quote.ofChar?_of_isPart (hparts d (by simp)), Option.map_none, ite_self]
  rw [begins, hopening]
  rfl

lemma Number.begins_of_isValid (h : Name.isValid name = true) : begins name = false := by
  have hstart := Name.begins_of_isValid h
  match name with
  | [] => rfl
  | [c] => exact Name.isDigit_eq_false_of_isStart hstart
  | c :: d :: r =>
    have hdot : c ≠ '.' := Name.ne_of_isPart (Name.isPart_of_isStart hstart) (by decide)
    have hdigit := Name.isDigit_eq_false_of_isStart hstart
    simp [begins, hdot, hdigit]

/-- A name is read as what it is recognized as. -/
lemma Lexeme.read_of_isValid (table : Table) (caseless : Bool) (h : Name.isValid name = true)
    (hallowed : ¬ Word.isReserved name = true) :
    read table caseless name = .ok { kind := Word.kind table name, text := name } := by
  have hleading : Name.leading name = name := Name.leading_of_isValid h
  have hbegins := Name.begins_of_isValid h
  rw [read_eq_recognize table caseless (Literal.begins_of_isValid h) (Number.begins_of_isValid h),
    if_pos hbegins, Word.recognize_of_not_isReserved (by rwa [hleading]), hleading]

/-! ## A line with one name -/

/-- A line that is a name gives one token, and then its end. -/
lemma reads_of_isValid (h : Name.isValid name = true) (hallowed : ¬ Word.isReserved name = true)
    (options : Options) :
    ∃ t after, (lineSession name options).Reads [t] after ∧
      t.kind = Word.kind Table.standard name ∧ t.text = name := by
  let s := lineSession name options
  have hrest : s.cursor.rest = name := by
    have htrim : Text.trim ([] ++ name ++ []) = name :=
      (Name.solid_of_isValid h).trim_eq (by simp) (by simp)
    rwa [List.nil_append, List.append_nil] at htrim
  let l : Lexeme := { kind := Word.kind Table.standard name, text := name }
  have hread : Lexeme.read s.rules.table s.rules.options.caselessOperators s.cursor.rest = .ok l := by
    rw [hrest]
    exact Lexeme.read_of_isValid _ _ h hallowed
  have hfront : Comment.front s.cursor.rest = .code := by
    rw [hrest]
    exact Comment.front_of_isValid h
  obtain ⟨hfound, hcursor⟩ := Cursor.scan_of_read (r := s.rules) rfl hfront rfl hread
  obtain ⟨next, hnext, hplace, hrules⟩ := Session.nextFromLine_of_scan hfound
  -- the name was all that stood on the line
  have hnil : next.cursor.rest = [] := by
    rw [hplace, hcursor]
    show Text.trimStart (s.cursor.rest.drop name.length) = []
    rw [hrest, List.drop_length]
    rfl
  obtain ⟨after, hend, -, -⟩ :=
    Session.nextFromLine_of_scan (s := next) (Cursor.scan_of_nil hnil)
  exact ⟨s.cursor.token s.rules l, after, .token hnext (.done hend), rfl, rfl⟩

/-- A line is read as one identifier with the whole text exactly if the text is a name that scripts
may give to something. -/
lemma tokenizeLine_eq_identifier_iff (s : Text) (options : Options) :
    (∃ t, (tokenizeLine s options).result = .ok [t] ∧ t.kind = .identifier ∧ t.text = s) ↔
      Name.isValid s = true ∧ (∀ k : Keyword, Table.standard.spelling (.keyword k) ≠ s) ∧
        ("__".toList <+: s → s = "__STACK__".toList) := by
  constructor
  · rintro ⟨t, hresult, hkind, rfl⟩
    have hshape := wellFormed_of_tokenizeLine hresult t List.mem_cons_self
    unfold Lexeme.WellFormed at hshape
    rw [hkind] at hshape
    obtain ⟨hvalid, hkeyword, hreserved, -⟩ := hshape
    exact ⟨hvalid, fun k hk => hkeyword k hk.symm, hreserved⟩
  · rintro ⟨hvalid, hkeyword, hreserved⟩
    have hallowed : ¬ Word.isReserved s = true := by
      rw [Word.isReserved_iff]
      exact fun h => h.2 (hreserved h.1)
    obtain ⟨t, after, hreads, hkind, htext⟩ := reads_of_isValid hvalid hallowed options
    refine ⟨t, tokenizeLine_eq_ok_iff.2 ⟨after, hreads⟩, ?_, htext⟩
    rw [hkind]
    exact Word.kind_eq_identifier_iff.2 hkeyword

/-- **Names are recognized as they are validated.**  Let a line begin with a character that may begin
a name, and take the longest beginning of it that is made of name characters.  This is refused exactly
if it begins with two underscores and is not the one such name that may be used; otherwise it is
recognized with just this text, as a keyword exactly if the table spells the keyword so, and as an
identifier if it spells none so.

Hence a whole line is one identifier, with the line as its text, exactly if the line is a valid name,
is no keyword and does not begin with two underscores, or is that one name. -/
theorem Name.recognized_as_validated :
    (∀ (table : Table) (line : Text), begins line = true →
      ∃ name, Longest line name ∧
        (∀ fault, Word.recognize table line = .error fault ↔
          fault = .reservedName name ∧ "__".toList <+: name ∧ name ≠ "__STACK__".toList) ∧
        (¬ ("__".toList <+: name ∧ name ≠ "__STACK__".toList) →
          ∃ l, Word.recognize table line = .ok l ∧ l.text = name ∧ l.value = [] ∧
            (∀ k, l.kind = .keyword k ↔ table.spelling (.keyword k) = name) ∧
            (l.kind = .identifier ↔ ∀ k : Keyword, table.spelling (.keyword k) ≠ name))) ∧
    ∀ (s : Text) (options : Options),
      (∃ t, (tokenizeLine s options).result = .ok [t] ∧ t.kind = .identifier ∧ t.text = s) ↔
        isValid s = true ∧ (∀ k : Keyword, Table.standard.spelling (.keyword k) ≠ s) ∧
          ("__".toList <+: s → s = "__STACK__".toList) := by
  refine ⟨fun table line h => ?_, tokenizeLine_eq_identifier_iff⟩
  refine ⟨leading line, longest_leading h, fun fault => ?_, fun hallowed => ?_⟩
  · rw [Word.recognize_eq_error_iff, Word.isReserved_iff]
  · rw [← Word.isReserved_iff] at hallowed
    exact ⟨_, Word.recognize_of_not_isReserved hallowed, rfl, rfl,
      fun k => Word.kind_eq_keyword_iff, Word.kind_eq_identifier_iff⟩

/-- A keyword that another one begins, a name that may not be used, and the letter that would open a
literal if a quote followed. -/
theorem Name.recognized_as_validated_letters :
    begins "foreach_reverse(x)".toList = true ∧
      (∃ l, Word.recognize Table.standard "foreach_reverse(x)".toList = .ok l ∧
        l.text = "foreach_reverse".toList ∧ l.kind = .keyword .foreachReverseWord) ∧
      begins "__x(1)".toList = true ∧
      Word.recognize Table.standard "__x(1)".toList = .error (.reservedName "__x".toList) ∧
      ∃ t, (tokenizeLine "r".toList {}).result = .ok [t] ∧ t.kind = .identifier ∧
        t.text = "r".toList := by
  have hkeyword : begins "foreach_reverse(x)".toList = true := rfl
  have hreserved : begins "__x(1)".toList = true := rfl
  obtain ⟨hline, hwhole⟩ := recognized_as_validated
  refine ⟨hkeyword, ?_, hreserved, ?_, ?_⟩
  · obtain ⟨name, hname, -, hfound⟩ := hline Table.standard _ hkeyword
    obtain rfl : "foreach_reverse".toList = name := (longest_leading hkeyword).eq hname
    obtain ⟨l, hl, htext, -, hkind, -⟩ := hfound (by decide)
    exact ⟨l, hl, htext, (hkind .foreachReverseWord).2 rfl⟩
  · obtain ⟨name, hname, hrefused, -⟩ := hline Table.standard _ hreserved
    obtain rfl : "__x".toList = name := (longest_leading hreserved).eq hname
    exact (hrefused _).2 ⟨rfl, by decide, by decide⟩
  · refine (hwhole "r".toList {}).2 ⟨rfl, fun k => ?_, by decide⟩
    cases k <;> decide

end ScriptLexer
