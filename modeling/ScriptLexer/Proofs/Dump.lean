import ScriptLexer.Dump
import ScriptLexer.Proofs.Literal.RoundTrip
import ScriptLexer.Proofs.Session.Shape

/-!
# The dump loses nothing

A line of the dump tells the line number, the kind, the text and the value of its token.  The fields
are only joined by colons, but neither the number nor the name of the kind holds one, so the first two
colons end these fields.  What follows is the text alone, or the text of a literal, a colon and the
value.  There the text ends where reading a literal ends, since what follows it is no quote, and the
value is the one that was read.

Controls stand nowhere in a line but in the text (`count_line`).
-/

namespace ScriptLexer

/-! ## The names of kinds -/

namespace Kind

lemma ofName?_name (k : Kind) : ofName? k.name = some k := by
  have hall : ∀ k ∈ all, ofName? k.name = some k := by decide +kernel
  exact hall k (mem_all k)

lemma name_injective : Function.Injective name := by
  intro k k' h
  have hfound := ofName?_name k
  rw [h, ofName?_name k'] at hfound
  exact (Option.some.inj hfound).symm

/-- Kinds are reported under names. -/
lemma isPart_of_mem_name {k : Kind} {c : Char} (h : c ∈ k.name) : Name.isPart c = true := by
  have hall : all.all (fun k => k.name.all Name.isPart) = true := by decide +kernel
  exact List.all_eq_true.1 (List.all_eq_true.1 hall k (mem_all k)) c h

end Kind

/-! ## Tokens that were produced -/

/-- A token that the tokenizer produced: one that a client was given by some calls, in any state of its
session, or one of a line, a stream or a file. -/
inductive Produced (t : Token) : Prop
  | byCalls {c : Session.Client} {calls : List Session.Call} :
      t ∈ Session.given (c.answers calls) → Produced t
  | ofLine {line : Text} {options : Options} {ts : List Token} :
      (tokenizeLine line options).result = .ok ts → t ∈ ts → Produced t
  | ofStream {setup : Session.Setup} {ts : List Token} :
      (tokenizeStream setup).result = .ok ts → t ∈ ts → Produced t
  | ofFile {files : FileSystem} {path : Text} {options : Options} {ts : List Token} :
      (tokenizeFile files path options).result = .ok ts → t ∈ ts → Produced t

lemma Produced.wellFormed {t : Token} (h : Produced t) :
    ∃ table caseless, t.toLexeme.WellFormed table caseless := by
  cases h with
  | @byCalls c calls hgiven =>
    have huses : Session.Uses c.session.table c.session.options c.session := ⟨rfl, rfl⟩
    exact ⟨_, _, (Session.Uses.gives _ _).of_mem_given (Session.Uses.kept _ _) Session.Uses.close
      huses calls t hgiven⟩
  | ofLine hts hmem => exact ⟨_, _, wellFormed_of_tokenizeLine hts t hmem⟩
  | ofStream hts hmem => exact ⟨_, _, wellFormed_of_tokenizeStream hts t hmem⟩
  | ofFile hts hmem => exact ⟨_, _, wellFormed_of_tokenizeFile hts t hmem⟩

namespace Lexeme

variable {table : Table} {caseless : Bool} {l : Lexeme}

/-- The text of a string literal is read as a literal, with this value. -/
lemma WellFormed.exists_literal (h : l.WellFormed table caseless) (hkind : l.kind = .stringLiteral) :
    ∃ literal : Literal, Literal.read? l.text = some (.ok literal) ∧ literal.raw = l.text ∧
      literal.value = l.value := by
  unfold WellFormed at h
  rw [hkind] at h
  exact h

/-- Only a string literal has a value. -/
lemma WellFormed.value_eq_nil (h : l.WellFormed table caseless) (hkind : l.kind ≠ .stringLiteral) :
    l.value = [] := by
  unfold WellFormed at h
  cases hk : l.kind with
  | stringLiteral => exact absurd hk hkind
  | emptyLine => rw [hk] at h; exact h.elim
  | operator o => rw [hk] at h; exact h.2.2.2.2
  | keyword k => rw [hk] at h; exact h.2
  | intLiteral => rw [hk] at h; exact h.2.2
  | floatLiteral => rw [hk] at h; exact h.2.2
  | identifier => rw [hk] at h; exact h.2.2.2
  | endOfFile => rw [hk] at h; exact h.2

end Lexeme

namespace Dump

/-! ## The fields -/

/-- The last fields of a token: its text, and the value of a string literal behind a colon. -/
def content (t : Token) : Text :=
  t.text ++ if t.kind = .stringLiteral then ':' :: Literal.write (.quote .double) t.value else []

lemma fields_eq (t : Token) :
    fields t = Numeral.integer t.location.line ++ ':' :: (t.kind.name ++ ':' :: content t) := by
  unfold fields content
  split_ifs <;> simp

/-- The first separator ends what stands in front of it. -/
lemma eq_of_append_separator {c : Char} {a a' b b' : Text} (h : c ∉ a) (h' : c ∉ a')
    (heq : a ++ c :: b = a' ++ c :: b') : a = a' ∧ b = b' := by
  have hfront : ∀ {a b : Text}, c ∉ a → (a ++ c :: b).takeWhile (· != c) = a := by
    intro a b ha
    have hall : ∀ d ∈ a, (d != c) = true := by
      rintro d hd
      exact bne_iff_ne.2 fun hdc => ha (hdc ▸ hd)
    rw [List.takeWhile_append_of_pos hall, List.takeWhile_cons_of_neg (by simp), List.append_nil]
  have hsame : a = a' := by rw [← hfront (b := b) h, heq, hfront h']
  subst hsame
  exact ⟨rfl, (List.cons.inj (List.append_cancel_left heq)).2⟩

lemma colon_notMem_integer (n : Int) : ':' ∉ Numeral.integer n := by
  intro h
  rcases Numeral.mem_integer h with hminus | hdigit
  · exact absurd hminus (by decide)
  · exact absurd hdigit (by decide)

lemma colon_notMem_name (k : Kind) : ':' ∉ k.name := fun h =>
  absurd (Kind.isPart_of_mem_name h) (by decide)

/-- The fields of a literal are read back as the literal, whatever value is shown behind its text. -/
lemma read?_content {t : Token} {table : Table} {caseless : Bool}
    (h : t.toLexeme.WellFormed table caseless) (hkind : t.kind = .stringLiteral) :
    ∃ literal : Literal, Literal.read? (content t) = some (.ok literal) ∧ literal.raw = t.text ∧
      literal.value = t.value := by
  obtain ⟨literal, hread, hraw, hvalue⟩ := h.exists_literal hkind
  refine ⟨literal, ?_, hraw, hvalue⟩
  have hstands := Literal.standsAt_of_read? hread
  rw [content, if_pos hkind, ← hraw]
  refine Literal.read?_of_standsAt ⟨hstands.1, _, rfl, ?_⟩
  cases literal.quote <;> simp [Quote.char]

/-- Two tokens of one kind whose last fields are the same have the same text and value. -/
lemma eq_of_content_eq {t t' : Token} {table table' : Table} {caseless caseless' : Bool}
    (h : t.toLexeme.WellFormed table caseless) (h' : t'.toLexeme.WellFormed table' caseless')
    (hkind : t.kind = t'.kind) (hcontent : content t = content t') :
    t.text = t'.text ∧ t.value = t'.value := by
  by_cases hliteral : t.kind = .stringLiteral
  · obtain ⟨l, hread, hraw, hvalue⟩ := read?_content h hliteral
    obtain ⟨l', hread', hraw', hvalue'⟩ := read?_content h' (hkind ▸ hliteral)
    rw [hcontent, hread'] at hread
    obtain rfl : l' = l := Except.ok.inj (Option.some.inj hread)
    exact ⟨hraw.symm.trans hraw', hvalue.symm.trans hvalue'⟩
  · have hliteral' : t'.kind ≠ .stringLiteral := hkind ▸ hliteral
    simp only [content, hliteral, hliteral', if_false, List.append_nil] at hcontent
    exact ⟨hcontent, (h.value_eq_nil hliteral).trans (h'.value_eq_nil hliteral').symm⟩

lemma lineMark_eq_iff {t t' : Token} : lineMark t = lineMark t' ↔ t.startsLine = t'.startsLine := by
  unfold lineMark
  cases t.startsLine <;> cases t'.startsLine <;> decide

/-- **The dump loses nothing.**  If two tokens that were produced, from whatever inputs, are shown by
the same line, then they have the same line number, kind, text and value, and if marks are shown, both
start a line or neither does. -/
theorem line_unambiguous {t t' : Token} (h : Produced t) (h' : Produced t') {marks : Bool}
    (heq : line marks t = line marks t') :
    t.location.line = t'.location.line ∧ t.kind = t'.kind ∧ t.text = t'.text ∧ t.value = t'.value ∧
      (marks = true → t.startsLine = t'.startsLine) := by
  have hparts : fields t = fields t' ∧ (marks = true → t.startsLine = t'.startsLine) := by
    cases marks with
    | false => exact ⟨heq, nofun⟩
    | true =>
      obtain ⟨hmark, hfields⟩ := List.cons.inj heq
      exact ⟨hfields, fun _ => lineMark_eq_iff.1 hmark⟩
  obtain ⟨hfields, hstart⟩ := hparts
  rw [fields_eq, fields_eq] at hfields
  obtain ⟨hnumber, hrest⟩ :=
    eq_of_append_separator (colon_notMem_integer _) (colon_notMem_integer _) hfields
  obtain ⟨hname, hcontent⟩ :=
    eq_of_append_separator (colon_notMem_name _) (colon_notMem_name _) hrest
  have hkind := Kind.name_injective hname
  obtain ⟨table, caseless, hshape⟩ := h.wellFormed
  obtain ⟨table', caseless', hshape'⟩ := h'.wellFormed
  obtain ⟨htext, hvalue⟩ := eq_of_content_eq hshape hshape' hkind hcontent
  exact ⟨Numeral.integer_injective hnumber, hkind, htext, hvalue, hstart⟩

/-- A literal whose text looks like one with its value, of a line on which it comes first and of a
stream in which it comes second. -/
theorem line_unambiguous_colons :
    ∃ t t' : Token, Produced t ∧ Produced t' ∧ line false t = line false t' ∧
      line false t = "1:STRING_LITERAL:'a\":\"b':\"a\"\":\"\"b\"".toList ∧
      t.startsLine = true ∧ t'.startsLine = false ∧ t.value = t'.value := by
  let t : Token :=
    { kind := .stringLiteral, text := "'a\":\"b'".toList, value := [97, 34, 58, 34, 98],
      location := ⟨namelessSource, 1⟩, startsLine := true }
  let t' : Token := { t with location := ⟨"f".toList, 1⟩, startsLine := false }
  let x : Token :=
    { kind := .identifier, text := "x".toList, location := ⟨"f".toList, 1⟩, startsLine := true }
  let e : Token :=
    { kind := .endOfFile, text := endText, location := ⟨"f".toList, 1⟩, startsLine := true }
  have hline : (tokenizeLine "'a\":\"b'".toList {}).result = .ok [t] := by decide +kernel
  have hstream : (tokenizeStream
      { file := "f".toList, stream := some (.ofText "x 'a\":\"b'".toList) }).result =
        .ok [x, t', e] := by decide +kernel
  have ht : Produced t := .ofLine hline (by simp)
  have ht' : Produced t' := .ofStream hstream (by simp)
  have heq : line false t = line false t' := rfl
  exact ⟨t, t', ht, ht', heq, by decide +kernel, rfl, rfl, (line_unambiguous ht ht' heq).2.2.2.1⟩

/-! ## Controls -/

lemma le_toNat_of_mem_integer {n : Int} {c : Char} (h : c ∈ Numeral.integer n) : 0x20 ≤ c.toNat := by
  rcases Numeral.mem_integer h with rfl | hdigit
  · decide
  · obtain ⟨hlow, -⟩ := Name.toNat_of_isDigit hdigit
    omega

lemma le_toNat_of_mem_name {k : Kind} {c : Char} (h : c ∈ k.name) : 0x20 ≤ c.toNat := by
  have hpart := Name.toNat_of_isPart (Kind.isPart_of_mem_name h)
  omega

/-- No control is written for a value. -/
lemma le_toNat_of_mem_write {q : Quote} {value : List CodePoint} {c : Char}
    (h : c ∈ Literal.write (.quote q) value) : 0x20 ≤ c.toNat :=
  (not_control_of_isPrintable (Literal.isPrintable_of_mem_write h)).1

/-- A control is shown as often as it stands in the text. -/
lemma count_line {c : Char} (hc : c.toNat < 0x20) (marks : Bool) (t : Token) :
    (line marks t).count c = t.text.count c := by
  have habsent : ∀ {u : Text}, (∀ d ∈ u, 0x20 ≤ d.toNat) → u.count c = 0 := by
    intro u hu
    refine List.count_eq_zero.2 fun hmem => ?_
    have hle := hu c hmem
    omega
  have hne : ∀ {d : Char}, 0x20 ≤ d.toNat → d ≠ c := by
    rintro d hd rfl
    omega
  have hnumber : (Numeral.integer t.location.line).count c = 0 :=
    habsent fun d => le_toNat_of_mem_integer
  have hname : t.kind.name.count c = 0 := habsent fun d => le_toNat_of_mem_name
  have hvalue : (Literal.write (.quote .double) t.value).count c = 0 :=
    habsent fun d => le_toNat_of_mem_write
  have hcolon : ':' ≠ c := hne (by decide)
  have hcontent : (content t).count c = t.text.count c := by
    rw [content, List.count_append]
    split_ifs
    · rw [List.count_cons_of_ne hcolon, hvalue, Nat.add_zero]
    · rfl
  have hfields : (fields t).count c = t.text.count c := by
    rw [fields_eq, List.count_append, List.count_cons_of_ne hcolon, List.count_append,
      List.count_cons_of_ne hcolon, hnumber, hname, hcontent, Nat.zero_add, Nat.zero_add]
  have hmark : lineMark t ≠ c := by
    unfold lineMark
    split_ifs
    · exact hne (by decide)
    · exact hne (by decide)
  cases marks with
  | false => exact hfields
  | true => exact (List.count_cons_of_ne hmark).trans hfields

lemma mem_line_iff {c : Char} (hc : c.toNat < 0x20) {marks : Bool} {t : Token} :
    c ∈ line marks t ↔ c ∈ t.text := by
  rw [← List.count_pos_iff, count_line hc, List.count_pos_iff]

end Dump

end ScriptLexer
