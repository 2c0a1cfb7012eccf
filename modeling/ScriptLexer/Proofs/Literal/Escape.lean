import Mathlib.Data.List.TakeWhile
import ScriptLexer.Literal.Escape

/-!
# What escape sequences spell

`Spells behind text p` says that the text after a backslash, with `behind` following it, spells the
code point `p`.  What follows matters only for numbers: their digits go on as long as they can.  The
main result, `read_eq_ok_iff`, says that reading an escape sequence accepts exactly what is spelled.
-/

namespace ScriptLexer.Escape

/-- The forms of numbers: what stands between the backslash and the digits, the base of the digits,
and their greatest number.  A decimal number has nothing in front of its digits. -/
inductive NumericRule : (lead : Text) → (base limit : Nat) → Prop
  | octalZero : NumericRule ['0'] 8 3
  | octal : NumericRule ['o'] 8 3
  | decimal : NumericRule [] 10 3
  | hex : NumericRule ['x'] 16 2
  | shortUnicode : NumericRule ['u'] 16 4
  | longUnicode : NumericRule ['U'] 16 8

/-- Digits in front of `behind` that are as many as there are, but no more than `limit`. -/
structure DigitRun (base limit : Nat) (behind digits : Text) : Prop where
  /-- There is a digit. -/
  ne_nil : digits ≠ []
  /-- There is nothing else. -/
  isDigit : ∀ c ∈ digits, Numeral.isDigitOf base c = true
  /-- There are not too many of them. -/
  length_le : digits.length ≤ limit
  /-- They end where no digit follows, or where no more are allowed. -/
  maximal : digits.length = limit ∨ ∀ c, behind.head? = some c → Numeral.isDigitOf base c = false

/-- The text after a backslash, in front of `behind`, and the code point that it spells. -/
inductive Spells (behind : Text) : Text → CodePoint → Prop
  /-- A character with a meaning of its own. -/
  | named {name meaning : Char} :
      (name, meaning) ∈ named → Spells behind [name] (CodePoint.ofChar meaning)
  /-- A number.  A decimal one does not begin with a zero, which would make it octal. -/
  | numeric {lead digits : Text} {base limit : Nat} {p : CodePoint} :
      NumericRule lead base limit → DigitRun base limit behind digits →
      (lead = [] → digits.head? ≠ some '0') → Numeral.value base digits = p.val →
      Spells behind (lead ++ digits) p

/-! ## What follows an escape sequence

Of the text behind an escape sequence only the first character matters.
-/

lemma DigitRun.congr_behind {base limit : Nat} {behind behind' digits : Text}
    (h : DigitRun base limit behind digits) (hhead : behind'.head? = behind.head?) :
    DigitRun base limit behind' digits where
  ne_nil := h.ne_nil
  isDigit := h.isDigit
  length_le := h.length_le
  maximal := by
    rw [hhead]
    exact h.maximal

lemma Spells.congr_behind {behind behind' text : Text} {p : CodePoint} (h : Spells behind text p)
    (hhead : behind'.head? = behind.head?) : Spells behind' text p := by
  cases h with
  | named hname => exact Spells.named hname
  | numeric hrule hrun hzero hvalue =>
    exact Spells.numeric hrule (hrun.congr_behind hhead) hzero hvalue

/-! ## Runs of digits -/

namespace NumericForm

variable (form : NumericForm)

/-- What a form reads off a text is a run of its digits. -/
lemma digitRun_digits {t : Text} (h : form.digits t ≠ []) :
    ∃ behind, t = form.digits t ++ behind ∧
      DigitRun form.base form.maxDigits behind (form.digits t) := by
  set window := t.take form.maxDigits with hwindow
  set rest := window.dropWhile (Numeral.isDigitOf form.base) with hrest
  have hsplit : window = form.digits t ++ rest := List.takeWhile_append_dropWhile.symm
  have hlength : (form.digits t).length ≤ window.length := by
    rw [hsplit, List.length_append]
    omega
  have hwidth : window.length ≤ form.maxDigits := by
    rw [hwindow, List.length_take]
    omega
  refine ⟨rest ++ t.drop form.maxDigits, ?_, h, fun c hc => List.mem_takeWhile_imp hc,
    hlength.trans hwidth, ?_⟩
  · rw [← List.append_assoc, ← hsplit, hwindow, List.take_append_drop]
  · cases hr : rest with
    | cons c rest' =>
      -- the first character that is left is no digit
      refine Or.inr fun d hd => ?_
      have hstop := List.head?_dropWhile_not (Numeral.isDigitOf form.base) window
      rw [← hrest, hr] at hstop
      simp only [List.cons_append, List.head?_cons, Option.some.injEq] at hd hstop
      rw [← hd]
      exact hstop
    | nil =>
      -- only digits were looked at, so the limit or the end of the text stopped them
      rw [hr, List.append_nil] at hsplit
      by_cases hfull : form.maxDigits ≤ t.length
      · refine Or.inl ?_
        rw [← hsplit, hwindow, List.length_take]
        omega
      · refine Or.inr fun d hd => ?_
        rw [List.drop_of_length_le (by omega)] at hd
        simp at hd

/-- A run of digits is what the form reads. -/
lemma digits_append {digits behind : Text}
    (h : DigitRun form.base form.maxDigits behind digits) :
    form.digits (digits ++ behind) = digits := by
  have htake : (digits ++ behind).take form.maxDigits =
      digits ++ behind.take (form.maxDigits - digits.length) := by
    rw [List.take_append, List.take_of_length_le h.length_le]
  have hstop : (behind.take (form.maxDigits - digits.length)).takeWhile
      (Numeral.isDigitOf form.base) = [] := by
    rcases h.maximal with hfull | hnone
    · rw [hfull]
      simp
    · cases behind with
      | nil => simp
      | cons c behind =>
        cases form.maxDigits - digits.length with
        | zero => simp
        | succ n =>
          rw [List.take_succ_cons, List.takeWhile_cons_of_neg]
          simp [hnone c rfl]
  rw [NumericForm.digits, htake, List.takeWhile_append_of_pos h.isDigit, hstop, List.append_nil]

end NumericForm

/-! ## Numbers -/

/-- Reading a number succeeds exactly on a run of digits whose value is a code point. -/
lemma readNumeric_eq_ok_iff {form : NumericForm} {t rest : Text} {p : CodePoint} :
    readNumeric form t = .ok (p, rest) ↔
      ∃ digits, form.fromIntroducer t = digits ++ rest ∧
        DigitRun form.base form.maxDigits rest digits ∧
        Numeral.value form.base digits = p.val := by
  unfold readNumeric
  simp only
  constructor
  · intro h
    split_ifs at h with hnil hvalue
    simp only [Except.ok.injEq, Prod.mk.injEq] at h
    obtain ⟨rfl, rfl⟩ := h
    obtain ⟨behind, hsource, hrun⟩ := form.digitRun_digits hnil
    have hdrop := congrArg (List.drop (form.digits (form.fromIntroducer t)).length) hsource
    rw [List.drop_left] at hdrop
    rw [hdrop]
    exact ⟨_, hsource, hrun, rfl⟩
  · rintro ⟨digits, hsource, hrun, hvalue⟩
    have hdigits : form.digits (form.fromIntroducer t) = digits := by
      rw [hsource, form.digits_append hrun]
    have hlt : Numeral.value form.base digits < 0x110000 := by
      rw [hvalue]
      exact p.isLt
    rw [hdigits, if_neg hrun.ne_nil, dif_pos hlt, hsource, List.drop_left]
    simp only [Except.ok.injEq, Prod.mk.injEq, and_true]
    exact Fin.ext hvalue

/-- The introducers and the forms of numbers are the same rules. -/
lemma rule_of_ofIntroducer? {c : Char} {form : NumericForm}
    (h : NumericForm.ofIntroducer? c = some form) :
    (form = .decimal ∧ '1' ≤ c ∧ c ≤ '9') ∨
      (form.fromIntroducer = List.drop 1 ∧ NumericRule [c] form.base form.maxDigits) := by
  unfold NumericForm.ofIntroducer? at h
  split_ifs at h with hoctal hdecimal hhex hshort hlong
  · obtain rfl := Option.some.inj h
    refine Or.inr ⟨rfl, ?_⟩
    rcases hoctal with rfl | rfl
    · exact NumericRule.octalZero
    · exact NumericRule.octal
  · obtain rfl := Option.some.inj h
    exact Or.inl ⟨rfl, hdecimal⟩
  · obtain rfl := Option.some.inj h
    subst hhex
    exact Or.inr ⟨rfl, NumericRule.hex⟩
  · obtain rfl := Option.some.inj h
    subst hshort
    exact Or.inr ⟨rfl, NumericRule.shortUnicode⟩
  · obtain rfl := Option.some.inj h
    subst hlong
    exact Or.inr ⟨rfl, NumericRule.longUnicode⟩

lemma isDigitOf_ten_iff {c : Char} :
    Numeral.isDigitOf 10 c = true ↔ '0' ≤ c ∧ c ≤ '9' := by
  unfold Numeral.isDigitOf Numeral.digit?
  split_ifs with hdigit
  · simp only [hdigit, and_self, iff_true, decide_eq_true_eq]
    have h9 : c.toNat ≤ '9'.toNat := hdigit.2
    simp only [Char.reduceToNat] at h9 ⊢
    omega
  · simp [hdigit]
  · simp [hdigit]
  · simp [hdigit]

/-! ## Escape sequences -/

lemma lookup_named_eq_some_iff {name meaning : Char} :
    named.lookup name = some meaning ↔ (name, meaning) ∈ named := by
  constructor
  · intro h
    obtain ⟨l₁, l₂, heq, -⟩ := List.lookup_eq_some_iff.1 h
    rw [heq]
    simp
  · intro h
    have hall : ∀ entry ∈ named, named.lookup entry.1 = some entry.2 := by decide
    exact hall _ h

/-- A digit has no meaning of its own after a backslash. -/
lemma lookup_named_eq_none_of_digit {c : Char} (h0 : '0' ≤ c) (h9 : c ≤ '9') :
    named.lookup c = none := by
  rw [List.lookup_eq_none_iff]
  have hall : ∀ entry ∈ named, ¬ ('0' ≤ entry.1 ∧ entry.1 ≤ '9') := by decide
  intro entry hentry
  rw [bne_iff_ne]
  rintro rfl
  exact hall entry hentry ⟨h0, h9⟩

/-- A digit other than zero introduces a decimal number. -/
lemma ofIntroducer?_of_digit {c : Char} (h0 : '0' ≤ c) (h9 : c ≤ '9') (hne : c ≠ '0') :
    NumericForm.ofIntroducer? c = some .decimal := by
  have ho : c ≠ 'o' := by
    rintro rfl
    exact absurd h9 (by decide)
  have h1 : '1' ≤ c := by
    have hlow : '0'.toNat ≤ c.toNat := h0
    have hdiff : c.toNat ≠ '0'.toNat := fun heq => hne (Char.toNat_inj.1 heq)
    show '1'.toNat ≤ c.toNat
    simp only [Char.reduceToNat] at hlow hdiff ⊢
    omega
  simp [NumericForm.ofIntroducer?, hne, ho, h1, h9]

lemma spells_of_read {t rest : Text} {p : CodePoint} (h : read t = .ok (p, rest)) :
    ∃ text, t = text ++ rest ∧ Spells rest text p := by
  unfold read at h
  split at h
  · simp at h
  · rename_i c r
    split at h
    · rename_i meaning hname
      simp only [Except.ok.injEq, Prod.mk.injEq] at h
      obtain ⟨rfl, rfl⟩ := h
      exact ⟨[c], rfl, Spells.named (lookup_named_eq_some_iff.1 hname)⟩
    · split at h
      · rename_i form hform
        obtain ⟨digits, hsource, hrun, hvalue⟩ := readNumeric_eq_ok_iff.1 h
        rcases rule_of_ofIntroducer? hform with ⟨rfl, h1, -⟩ | ⟨hskip, hrule⟩
        · -- the introducer of a decimal number is its first digit
          have hzero : digits.head? ≠ some '0' := by
            intro h0
            obtain ⟨d, digits, rfl⟩ := List.exists_cons_of_ne_nil hrun.ne_nil
            obtain ⟨rfl, -⟩ := List.cons.inj hsource
            obtain rfl := Option.some.inj h0
            exact absurd h1 (by decide)
          have hspells := Spells.numeric NumericRule.decimal hrun (fun _ => hzero) hvalue
          exact ⟨digits, hsource, hspells⟩
        · rw [hskip] at hsource
          refine ⟨c :: digits, ?_, Spells.numeric hrule hrun (by simp) hvalue⟩
          rw [List.cons_append, ← hsource]
          rfl
      · simp at h

lemma read_of_spells {text rest : Text} {p : CodePoint} (h : Spells rest text p) :
    read (text ++ rest) = .ok (p, rest) := by
  cases h with
  | named hname =>
    rw [List.singleton_append, read, lookup_named_eq_some_iff.2 hname]
  | @numeric lead digits base limit _ hrule hrun hzero hvalue =>
    -- all forms but the decimal one are introduced by a character of their own
    have introduced : ∀ (c : Char) (form : NumericForm), named.lookup c = none →
        NumericForm.ofIntroducer? c = some form → form.fromIntroducer = List.drop 1 →
        DigitRun form.base form.maxDigits rest digits → Numeral.value form.base digits = p.val →
        read ([c] ++ digits ++ rest) = .ok (p, rest) := by
      intro c form hlookup hform hskip hrun' hvalue'
      rw [List.append_assoc, List.singleton_append, read, hlookup, hform]
      refine readNumeric_eq_ok_iff.2 ⟨digits, ?_, hrun', hvalue'⟩
      rw [hskip]
      rfl
    cases hrule with
    | octalZero => exact introduced '0' .octal (by decide) (by decide) rfl hrun hvalue
    | octal => exact introduced 'o' .octal (by decide) (by decide) rfl hrun hvalue
    | hex => exact introduced 'x' .hex (by decide) (by decide) rfl hrun hvalue
    | shortUnicode => exact introduced 'u' .shortUnicode (by decide) (by decide) rfl hrun hvalue
    | longUnicode => exact introduced 'U' .longUnicode (by decide) (by decide) rfl hrun hvalue
    | decimal =>
      -- the first digit is the introducer, and it is not the zero of an octal number
      obtain ⟨c, digits, rfl⟩ := List.exists_cons_of_ne_nil hrun.ne_nil
      obtain ⟨h0, h9⟩ := isDigitOf_ten_iff.1 (hrun.isDigit c List.mem_cons_self)
      have hne : c ≠ '0' := by
        rintro rfl
        exact hzero rfl rfl
      rw [List.nil_append, List.cons_append, read, lookup_named_eq_none_of_digit h0 h9,
        ofIntroducer?_of_digit h0 h9 hne]
      exact readNumeric_eq_ok_iff.2 ⟨c :: digits, rfl, hrun, hvalue⟩

/-- Reading an escape sequence accepts exactly what spells a code point. -/
lemma read_eq_ok_iff {t rest : Text} {p : CodePoint} :
    read t = .ok (p, rest) ↔ ∃ text, t = text ++ rest ∧ Spells rest text p := by
  constructor
  · exact spells_of_read
  · rintro ⟨text, rfl, h⟩
    exact read_of_spells h

end ScriptLexer.Escape
