import ScriptLexer.Fault
import ScriptLexer.Proofs.Literal.Grammar

/-!
# The first fault of a literal

A literal is given up at one place: behind its opening and as many items as can be read there.  This
place alone decides which fault is told.  At the end of the line the literal is not closed; anywhere
else there is a backslash that begins no item, and the text behind it tells what is wrong with the
escape sequence.  Faults that lie further on play no part.

The main result is `read?_first_fault`.
-/

namespace ScriptLexer

namespace Escape

/-! ## Numbers that are refused -/

/-- The text after a backslash introduces a number, but no digit of its form follows, or the number
is greater than all code points. -/
inductive Misnumbered : Text → Prop
  /-- There is no digit behind the introducer. -/
  | noDigits {lead behind : Text} {base limit : Nat} :
      NumericRule lead base limit → lead ≠ [] →
      (∀ c, behind.head? = some c → Numeral.isDigitOf base c = false) → Misnumbered (lead ++ behind)
  /-- The number is no code point. -/
  | tooLarge {lead digits behind : Text} {base limit : Nat} :
      NumericRule lead base limit → DigitRun base limit behind digits →
      (lead = [] → digits.head? ≠ some '0') → 0x10FFFF < Numeral.value base digits →
      Misnumbered (lead ++ digits ++ behind)

/-- The fault is one of a number. -/
def Fault.OfNumber : Fault → Prop
  | .noDigits _ | .tooLarge _ _ => True
  | .endOfLine | .unknown _ => False

lemma ofNumber_of_readNumeric {form : NumericForm} {t : Text} {fault : Fault}
    (h : readNumeric form t = .error fault) : fault.OfNumber := by
  unfold readNumeric at h
  simp only at h
  split_ifs at h
  · obtain rfl := Except.error.inj h
    trivial
  · obtain rfl := Except.error.inj h
    trivial

/-- A form reads no digit only where none follows. -/
lemma head?_of_digits_eq_nil {form : NumericForm} {t : Text} (h : form.digits t = []) :
    ∀ c, t.head? = some c → Numeral.isDigitOf form.base c = false := by
  intro c hc
  obtain ⟨t, rfl⟩ := List.head?_eq_some_iff.1 hc
  by_contra hdigit
  have hpos : form.maxDigits ≠ 0 := by cases form <;> decide
  obtain ⟨n, hn⟩ := Nat.exists_eq_succ_of_ne_zero hpos
  rw [NumericForm.digits, hn, List.take_succ_cons,
    List.takeWhile_cons_of_pos (Bool.of_not_eq_false hdigit)] at h
  exact List.cons_ne_nil _ _ h

/-- A number that is refused has no digit, or is too large. -/
lemma misnumbered_of_readNumeric {c : Char} {r : Text} {form : NumericForm} {fault : Fault}
    (hform : NumericForm.ofIntroducer? c = some form)
    (h : readNumeric form (c :: r) = .error fault) : Misnumbered (c :: r) := by
  unfold readNumeric at h
  simp only at h
  rcases rule_of_ofIntroducer? hform with ⟨rfl, h1, h9⟩ | ⟨hskip, hrule⟩
  · -- the introducer of a decimal number is its first digit
    have hdigit : Numeral.isDigitOf 10 c = true := by
      have h0 : '0' ≤ c := Char.le_trans (by decide) h1
      exact isDigitOf_ten_iff.2 ⟨h0, h9⟩
    split_ifs at h with hnil hvalue
    · exact absurd (head?_of_digits_eq_nil hnil c rfl) (by simp [NumericForm.base, hdigit])
    · obtain ⟨behind, hsource, hrun⟩ := NumericForm.digitRun_digits _ hnil
      have hzero : (NumericForm.digits .decimal (NumericForm.fromIntroducer .decimal (c :: r))).head?
          ≠ some '0' := by
        intro hhead
        have hc := congrArg List.head? hsource
        rw [List.head?_append, hhead] at hc
        obtain rfl : c = '0' := Option.some.inj hc
        exact absurd h1 (by decide)
      have hlarge := Misnumbered.tooLarge NumericRule.decimal hrun (fun _ => hzero)
        (Nat.not_lt.1 hvalue)
      rwa [List.nil_append, ← hsource] at hlarge
  · rw [hskip] at h
    split_ifs at h with hnil hvalue
    · exact Misnumbered.noDigits hrule (List.cons_ne_nil c []) (head?_of_digits_eq_nil hnil)
    · obtain ⟨behind, hsource, hrun⟩ := form.digitRun_digits hnil
      have hlarge := Misnumbered.tooLarge hrule hrun (by simp) (Nat.not_lt.1 hvalue)
      rwa [List.append_assoc, ← hsource] at hlarge

/-- Such a text begins with the introducer of a number. -/
lemma Misnumbered.exists_form {t : Text} (h : Misnumbered t) :
    ∃ c r form, t = c :: r ∧ named.lookup c = none ∧ NumericForm.ofIntroducer? c = some form := by
  have introduced : ∀ {lead : Text} {base limit : Nat} (behind : Text),
      NumericRule lead base limit → lead ≠ [] →
      ∃ c r form, lead ++ behind = c :: r ∧ named.lookup c = none ∧
        NumericForm.ofIntroducer? c = some form := by
    intro lead base limit behind hrule hlead
    cases hrule with
    | octalZero => exact ⟨'0', behind, .octal, rfl, by decide, by decide⟩
    | octal => exact ⟨'o', behind, .octal, rfl, by decide, by decide⟩
    | decimal => exact absurd rfl hlead
    | hex => exact ⟨'x', behind, .hex, rfl, by decide, by decide⟩
    | shortUnicode => exact ⟨'u', behind, .shortUnicode, rfl, by decide, by decide⟩
    | longUnicode => exact ⟨'U', behind, .longUnicode, rfl, by decide, by decide⟩
  cases h with
  | noDigits hrule hlead _ => exact introduced _ hrule hlead
  | @tooLarge lead digits behind base limit hrule hrun hzero _ =>
    by_cases hlead : lead = []
    · subst hlead
      cases hrule
      obtain ⟨c, digits, rfl⟩ := List.exists_cons_of_ne_nil hrun.ne_nil
      obtain ⟨h0, h9⟩ := isDigitOf_ten_iff.1 (hrun.isDigit c List.mem_cons_self)
      have hne : c ≠ '0' := by
        rintro rfl
        exact hzero rfl rfl
      exact ⟨c, digits ++ behind, .decimal, rfl, lookup_named_eq_none_of_digit h0 h9,
        ofIntroducer?_of_digit h0 h9 hne⟩
    · rw [List.append_assoc]
      exact introduced _ hrule hlead

/-! ## Escape sequences that are refused -/

/-- What the text after a backslash tells about the fault. -/
structure Fault.Tells (t : Text) (fault : Fault) : Prop where
  endOfLine : fault = .endOfLine ↔ t = []
  ofNumber : fault.OfNumber ↔ Misnumbered t
  unknown : (∃ c, fault = .unknown c) ↔ t ≠ [] ∧ ¬ Misnumbered t

lemma tells_of_read {t : Text} {fault : Fault} (h : read t = .error fault) : fault.Tells t := by
  unfold read at h
  split at h
  · obtain rfl := Except.error.inj h
    have hnumber : ¬ Misnumbered [] := by
      intro hmis
      obtain ⟨c, r, form, hnil, -⟩ := hmis.exists_form
      exact List.cons_ne_nil c r hnil.symm
    exact ⟨by simp, by simpa [Fault.OfNumber] using hnumber, by simp⟩
  · rename_i c r
    split at h
    · cases h
    · split at h
      · rename_i form hform
        have hnumber := ofNumber_of_readNumeric h
        have hmis := misnumbered_of_readNumeric hform h
        refine ⟨?_, iff_of_true hnumber hmis, ?_⟩
        · refine iff_of_false ?_ (List.cons_ne_nil c r)
          rintro rfl
          exact hnumber
        · refine iff_of_false ?_ fun hnot => hnot.2 hmis
          rintro ⟨d, rfl⟩
          exact hnumber
      · rename_i hform
        obtain rfl := Except.error.inj h
        have hnumber : ¬ Misnumbered (c :: r) := by
          intro hmis
          obtain ⟨d, r', form, heq, -, hintroduced⟩ := hmis.exists_form
          obtain ⟨rfl, -⟩ := List.cons.inj heq
          rw [hform] at hintroduced
          cases hintroduced
        exact ⟨by simp, by simpa [Fault.OfNumber] using hnumber, by simpa using hnumber⟩

end Escape

namespace Literal

/-! ## The place at which a literal ends or is given up -/

/-- No item begins here. -/
def Stops (o : Opening) (rest : Text) : Prop :=
  ∀ text behind p, rest = text ++ behind → ¬ Item o behind text p

/-- A line begins with an opening and items, and `rest` is what stands behind as many of them as there
are. -/
def Reaches (line : Text) (o : Opening) (rest : Text) : Prop :=
  ∃ opener items value, o.Spelled opener ∧ line = opener ++ (items ++ rest) ∧
    Items o rest items value ∧ Stops o rest

lemma Item.ne_nil {o : Opening} {behind text : Text} {p : CodePoint} (h : Item o behind text p) :
    text ≠ [] := by
  cases h <;> exact List.cons_ne_nil _ _

lemma stops_nil (o : Opening) : Stops o [] := by
  intro text behind p hnil hitem
  exact hitem.ne_nil (List.append_eq_nil_iff.1 hnil.symm).1

/-- A quote that is not doubled begins no item. -/
lemma stops_quote {o : Opening} {rest : Text} (h : rest.head? ≠ some o.quote.char) :
    Stops o (o.quote.char :: rest) := by
  intro text behind p heq hitem
  cases hitem with
  | doubled =>
    obtain ⟨-, rfl⟩ := List.cons.inj heq
    exact h rfl
  | escape _ _ => exact char_ne_backslash o.quote (List.cons.inj heq).1.symm
  | plain hquote _ => exact hquote (List.cons.inj heq).1.symm

/-- A backslash in front of an escape sequence that is refused begins no item. -/
lemma stops_backslash {o : Opening} {r : Text} {fault : Escape.Fault} (hv : o.verbatim = false)
    (h : Escape.read r = .error fault) : Stops o ('\\' :: r) := by
  intro text behind p heq hitem
  cases hitem with
  | doubled => exact char_ne_backslash o.quote (List.cons.inj heq).1
  | escape _ hspells =>
    have htail : r = _ ++ behind := (List.cons.inj heq).2
    rw [htail, Escape.read_of_spells hspells] at h
    cases h
  | plain _ hslash => exact hslash hv (List.cons.inj heq).1.symm

/-- At most one item begins at a place. -/
lemma Item.behind_eq {o : Opening} {behind behind' text text' : Text} {p p' : CodePoint}
    (h : Item o behind text p) (h' : Item o behind' text' p')
    (heq : text ++ behind = text' ++ behind') : behind = behind' := by
  cases h with
  | doubled =>
    cases h' with
    | doubled => simpa using heq
    | escape _ _ => exact absurd (List.cons.inj heq).1.symm (char_ne_backslash o.quote)
    | plain hquote _ => exact absurd (List.cons.inj heq).1.symm hquote
  | escape hv hspells =>
    cases h' with
    | doubled => exact absurd (List.cons.inj heq).1 (char_ne_backslash o.quote)
    | escape _ hspells' =>
      have hread := Escape.read_of_spells hspells
      have htail : _ ++ behind = _ ++ behind' := (List.cons.inj heq).2
      rw [htail, Escape.read_of_spells hspells'] at hread
      exact (Prod.mk.inj (Except.ok.inj hread)).2.symm
    | plain _ hslash => exact absurd (List.cons.inj heq).1.symm (hslash hv)
  | plain hquote hslash =>
    cases h' with
    | doubled => exact absurd (List.cons.inj heq).1 hquote
    | escape hv _ => exact absurd (List.cons.inj heq).1 (hslash hv)
    | plain _ _ => exact (List.cons.inj heq).2

/-- So the items that begin at a place end at one place. -/
lemma Items.rest_eq {o : Opening} {rest rest' items items' : Text} {value value' : List CodePoint}
    (h : Items o rest items value) (h' : Items o rest' items' value')
    (heq : items ++ rest = items' ++ rest') (hstop : Stops o rest) (hstop' : Stops o rest') :
    rest = rest' := by
  induction h generalizing items' value' with
  | nil =>
    cases h' with
    | nil => exact heq
    | cons hitem _ =>
      rw [List.append_assoc] at heq
      exact absurd hitem (hstop _ _ _ heq)
  | cons hitem _ ih =>
    cases h' with
    | nil =>
      rw [List.append_assoc] at heq
      exact absurd hitem (hstop' _ _ _ heq.symm)
    | cons hitem' hitems' =>
      rw [List.append_assoc, List.append_assoc] at heq
      exact ih hitems' (hitem.behind_eq hitem' heq)

/-- A line has one such place. -/
lemma Reaches.unique {line rest rest' : Text} {o o' : Opening} (h : Reaches line o rest)
    (h' : Reaches line o' rest') : o' = o ∧ rest' = rest := by
  obtain ⟨opener, items, value, hopener, rfl, hitems, hstop⟩ := h
  obtain ⟨opener', items', value', hopener', heq, hitems', hstop'⟩ := h'
  have hread := opening_read?_append hopener (items ++ rest)
  rw [heq, opening_read?_append hopener'] at hread
  obtain ⟨rfl, hinner⟩ := Prod.mk.inj (Option.some.inj hread)
  exact ⟨rfl, hitems'.rest_eq hitems hinner hstop' hstop⟩

/-! ## Bodies that are refused -/

/-- Why a literal is given up here. -/
inductive GivenUp (o : Opening) : Text → Fault → Prop
  /-- The line ends. -/
  | atEnd : GivenUp o [] (.unterminated o.quote)
  /-- An escape sequence is refused. -/
  | atBackslash {r : Text} {fault : Escape.Fault} :
      o.verbatim = false → Escape.read r = .error fault → GivenUp o ('\\' :: r) (.escape fault)

lemma GivenUp.stops {o : Opening} {rest : Text} {fault : Fault} (h : GivenUp o rest fault) :
    Stops o rest := by
  cases h with
  | atEnd => exact stops_nil o
  | atBackslash hv hread => exact stops_backslash hv hread

lemma prepend_eq_error {p : CodePoint} {r : Except Fault (List CodePoint × Text)} {fault : Fault}
    (h : prepend p r = .error fault) : r = .error fault := by
  cases r with
  | error fault' => exact congrArg Except.error (Except.error.inj h)
  | ok pair => cases h

/-- A body is refused at the place behind its items. -/
lemma givenUp_of_body {o : Opening} {t : Text} {fault : Fault} (h : body o t = .error fault) :
    ∃ items value rest, t = items ++ rest ∧ Items o rest items value ∧ GivenUp o rest fault := by
  -- one more item in front of the others
  have before : ∀ {first t : Text} {p : CodePoint}, Item o t first p →
      (∃ items value rest, t = items ++ rest ∧ Items o rest items value ∧ GivenUp o rest fault) →
      ∃ items value rest, first ++ t = items ++ rest ∧ Items o rest items value ∧
        GivenUp o rest fault := by
    rintro first _ p hitem ⟨items, value, rest, rfl, hitems, hgiven⟩
    exact ⟨first ++ items, p :: value, rest, (List.append_assoc _ _ _).symm,
      Items.cons hitem hitems, hgiven⟩
  fun_induction body o t with
  | case1 =>
    obtain rfl := Except.error.inj h
    exact ⟨[], [], [], rfl, Items.nil, GivenUp.atEnd⟩
  | case2 => cases h
  | case3 r ih => exact before Item.doubled (ih (prepend_eq_error h))
  | case4 => cases h
  | case5 c r hc hslash fault' hread =>
    obtain rfl := Except.error.inj h
    obtain ⟨rfl, hv⟩ := hslash
    exact ⟨[], [], '\\' :: r, rfl, Items.nil, GivenUp.atBackslash hv hread⟩
  | case6 c r hc hslash p rest' hread ih =>
    obtain ⟨rfl, hv⟩ := hslash
    obtain ⟨text, rfl, hspells⟩ := Escape.read_eq_ok_iff.1 hread
    exact before (Item.escape hv hspells) (ih (prepend_eq_error h))
  | case7 c r hc hslash ih =>
    have hitem : Item o r [c] (CodePoint.ofChar c) :=
      Item.plain hc fun hv hbackslash => hslash ⟨hbackslash, hv⟩
    exact before hitem (ih (prepend_eq_error h))

/-! ## The class of a fault -/

/-- What the class of a diagnostic tells about the place at which a literal is given up. -/
structure Tells (o : Opening) (rest : Text) (kind : Diagnostic.Class) : Prop where
  /-- The literal is not closed exactly if this is the end of the line. -/
  unterminated : kind = .unterminatedString ↔ rest = []
  /-- Anywhere else a literal that is not verbatim has a backslash. -/
  backslash : rest ≠ [] → o.verbatim = false ∧ rest.head? = some '\\'
  /-- It is the last character of the line. -/
  multiline : kind = .multilineString ↔ rest = ['\\']
  /-- It introduces a number without digits, or one that is too large. -/
  invalid : kind = .invalidEscape ↔ ∃ r, rest = '\\' :: r ∧ Escape.Misnumbered r
  /-- It does neither. -/
  unhandled : kind = .unhandledEscape ↔ ∃ r, rest = '\\' :: r ∧ r ≠ [] ∧ ¬ Escape.Misnumbered r

/-- The classes of the faults of escape sequences. -/
lemma kind_escape_iff (fault : Escape.Fault) (line : Text) :
    let kind := (ScriptLexer.Fault.literal (.escape fault) line).kind
    kind ≠ .unterminatedString ∧ (kind = .multilineString ↔ fault = .endOfLine) ∧
      (kind = .invalidEscape ↔ fault.OfNumber) ∧
      (kind = .unhandledEscape ↔ ∃ c, fault = .unknown c) := by
  cases fault <;> simp [ScriptLexer.Fault.kind, Escape.Fault.OfNumber]

lemma GivenUp.tells {o : Opening} {rest : Text} {fault : Fault} (h : GivenUp o rest fault)
    (line : Text) : Tells o rest (ScriptLexer.Fault.literal fault line).kind := by
  cases h with
  | atEnd => constructor <;> simp [ScriptLexer.Fault.kind]
  | @atBackslash r fault hv hread =>
    have htells := Escape.tells_of_read hread
    obtain ⟨hunterminated, hmultiline, hinvalid, hunhandled⟩ := kind_escape_iff fault line
    constructor
    · exact iff_of_false hunterminated (List.cons_ne_nil _ _)
    · exact fun _ => ⟨hv, rfl⟩
    · rw [hmultiline, htells.endOfLine, List.cons.injEq, eq_self, true_and]
    · rw [hinvalid, htells.ofNumber]
      simp
    · rw [hunhandled, htells.unknown]
      simp

/-- **The first fault decides.**  Where a literal begins, it is read or refused.  Behind its opening
and as many items as there are, the line goes on with `rest`.  If this begins with the quote, the
literal ends there and is read.  Else it is refused, at the place that was given, and the class of the
fault tells what `rest` begins with.  A verbatim literal is refused only if it is not closed. -/
theorem read?_first_fault {line : Text} (h : begins line = true) (location : Option Location) :
    ∃ o rest, Reaches line o rest ∧
      (∀ o' rest', Reaches line o' rest' → o' = o ∧ rest' = rest) ∧
      ((rest.head? = some o.quote.char ∧ ∃ l, read? line = some (.ok l)) ∨
        ∃ fault, read? line = some (.error fault) ∧ rest.head? ≠ some o.quote.char ∧
          ((ScriptLexer.Fault.literal fault line).diagnostic location).location = location ∧
          Tells o rest ((ScriptLexer.Fault.literal fault line).diagnostic location).kind ∧
          (o.verbatim = true →
            ((ScriptLexer.Fault.literal fault line).diagnostic location).kind =
              .unterminatedString)) := by
  obtain ⟨⟨o, inner⟩, hopen⟩ := Option.isSome_iff_exists.1 h
  obtain ⟨opener, hopener, rfl⟩ := opening_spelled_of_read? hopen
  cases hbody : body o inner with
  | ok pair =>
    obtain ⟨value, behind⟩ := pair
    obtain ⟨items, rfl, hitems, hhead⟩ := isBody_of_body hbody
    have hreaches : Reaches (opener ++ (items ++ o.quote.char :: behind)) o
        (o.quote.char :: behind) :=
      ⟨opener, items, value, hopener, rfl, hitems, stops_quote hhead⟩
    refine ⟨o, _, hreaches, fun o' rest' h' => hreaches.unique h', Or.inl ⟨rfl, ?_⟩⟩
    simp [read?, hopen, hbody]
  | error fault =>
    obtain ⟨items, value, rest, rfl, hitems, hgiven⟩ := givenUp_of_body hbody
    have hreaches : Reaches (opener ++ (items ++ rest)) o rest :=
      ⟨opener, items, value, hopener, rfl, hitems, hgiven.stops⟩
    have htells := hgiven.tells (opener ++ (items ++ rest))
    refine ⟨o, rest, hreaches, fun o' rest' h' => hreaches.unique h',
      Or.inr ⟨fault, by simp [read?, hopen, hbody], ?_, rfl, htells, fun hv => ?_⟩⟩
    · cases hgiven with
      | atEnd => simp
      | atBackslash _ _ => simpa using char_ne_backslash o.quote
    · refine htells.unterminated.2 (not_not.1 fun hne => ?_)
      rw [(htells.backslash hne).1] at hv
      cases hv

/-- A number that is too large comes first, behind a doubled quote and a number that is full; the
unknown escape sequence and the missing quote behind it play no part. -/
theorem read?_first_fault_tooLarge :
    let line := "'a''\\1234\\U00110000\\q".toList
    begins line = true ∧
      ∃ (o : Opening) (rest r : Text), Reaches line o rest ∧ rest = '\\' :: r ∧
        Escape.Misnumbered r ∧
        read? line = some (.error (.escape (.tooLarge .longUnicode 0x110000))) := by
  intro line
  have hbegins : begins line = true := by decide
  have hread : read? line = some (.error (.escape (.tooLarge .longUnicode 0x110000))) := by
    decide +kernel
  obtain ⟨o, rest, hreaches, -, ⟨-, l, hl⟩ | ⟨fault, hfault, -, -, htells, -⟩⟩ :=
    read?_first_fault hbegins none
  · rw [hread] at hl
    cases hl
  · rw [hread] at hfault
    obtain rfl := Except.error.inj (Option.some.inj hfault)
    obtain ⟨r, hrest, hmis⟩ := htells.invalid.1 rfl
    exact ⟨hbegins, o, rest, r, hreaches, hrest, hmis, hread⟩

end Literal

end ScriptLexer
