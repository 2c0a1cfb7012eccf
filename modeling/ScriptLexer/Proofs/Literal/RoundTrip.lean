import ScriptLexer.Literal.Writer
import ScriptLexer.Proofs.Literal.Grammar
import ScriptLexer.Proofs.Text.Numeral
import ScriptLexer.Proofs.Text.Printable

/-!
# Reading what was written

A value that is written between quotes is read back, whatever text follows that does not begin with
the quote.  Every code point is written as one item of a literal, and the item stays the same in
front of any text: quotes come in pairs, names are one character long, and the numbers have as many
digits as their forms allow.  All characters written are printable.
-/

namespace ScriptLexer.Literal

/-! ## Each code point is one item -/

lemma exists_meaning_of_escapeName? {p : CodePoint} {name : Char}
    (h : escapeName? p = some name) :
    ∃ meaning, (name, meaning) ∈ Escape.named ∧ CodePoint.ofChar meaning = p := by
  obtain ⟨⟨name', meaning⟩, hfind, rfl⟩ := Option.map_eq_some_iff.1 h
  have hmem := List.mem_of_find?_eq_some hfind
  have hvalue := List.find?_some hfind
  simp only [Bool.and_eq_true, beq_iff_eq] at hvalue
  exact ⟨meaning, hmem, Fin.ext hvalue.2⟩

/-- A number with all the digits that its form allows, in front of any text. -/
lemma spells_hex {lead : Char} {limit n : Nat} {p : CodePoint} {behind : Text}
    (hrule : Escape.NumericRule [lead] 16 limit) (hlimit : 0 < limit) (hp : p.val = n)
    (hn : n < 16 ^ limit) : Escape.Spells behind (lead :: Numeral.hex limit n) p := by
  have hrun : Escape.DigitRun 16 limit behind (Numeral.hex limit n) :=
    { ne_nil := by
        rw [← List.length_pos_iff, Numeral.length_hex]
        exact hlimit
      isDigit := fun c hc => Numeral.isDigitOf_of_mem_hex hc
      length_le := by rw [Numeral.length_hex]
      maximal := Or.inl (Numeral.length_hex limit n) }
  have hvalue : Numeral.value 16 (Numeral.hex limit n) = p.val := by
    rw [Numeral.value_hex_of_lt hn, hp]
  have hspells := Escape.Spells.numeric hrule hrun (by simp) hvalue
  exact hspells

lemma codePoints_quote_eq_iff {q : Quote} {p : CodePoint} :
    Text.codePoints (Delimiter.quote q).text = [p] ↔ CodePoint.ofChar q.char = p := by
  simp [Text.codePoints, Delimiter.text]

/-- What is written for a code point is an item that denotes it, in front of any text. -/
lemma item_writeItem (q : Quote) (p : CodePoint) (behind : Text) :
    Item ⟨q, false⟩ behind (writeItem (.quote q) p) p := by
  unfold writeItem
  by_cases hquote : Text.codePoints (Delimiter.quote q).text = [p]
  · rw [if_pos hquote]
    obtain rfl := codePoints_quote_eq_iff.1 hquote
    exact Item.doubled (o := ⟨q, false⟩)
  · rw [if_neg hquote]
    cases hname : escapeName? p with
    | some name =>
      obtain ⟨meaning, hmem, rfl⟩ := exists_meaning_of_escapeName? hname
      exact Item.escape rfl (Escape.Spells.named hmem)
    | none =>
      simp only
      split_ifs with hcontrol hprintable
      · -- two digits are all that the form allows, and enough for a control
        have hsmall : p.val < 16 ^ 2 := by omega
        exact Item.escape rfl (spells_hex Escape.NumericRule.hex (by decide) rfl hsmall)
      · -- the character stands for itself: the quote and the backslash were written otherwise
        have hchar := ofChar_ofNat_of_isPrintable hprintable
        have hplain : Item ⟨q, false⟩ behind [Char.ofNat p.val]
            (CodePoint.ofChar (Char.ofNat p.val)) := by
          refine Item.plain ?_ fun _ => ?_
          · intro heq
            exact hquote (codePoints_quote_eq_iff.2 (by rw [← heq, hchar]))
          · intro heq
            rw [← hchar, heq] at hname
            exact absurd hname (by decide)
        rw [hchar] at hplain
        exact hplain
      · -- eight digits are enough for any code point, surrogates included
        have hlarge : p.val < 16 ^ 8 := by omega
        exact Item.escape rfl (spells_hex Escape.NumericRule.longUnicode (by decide) rfl hlarge)

lemma items_flatMap_writeItem (q : Quote) (value : List CodePoint) (behind : Text) :
    Items ⟨q, false⟩ behind (value.flatMap (writeItem (.quote q))) value := by
  induction value with
  | nil => exact Items.nil
  | cons p value ih =>
    rw [List.flatMap_cons]
    exact Items.cons (item_writeItem q p _) ih

/-- A written value is a literal by the rules. -/
lemma spelled_write (q : Quote) (value : List CodePoint) :
    Spelled ⟨write (.quote q) value, value, q, false⟩ :=
  Spelled.mk (Opening.Spelled.quoted q) (items_flatMap_writeItem q value [q.char])

/-! ## What is written is printable -/

lemma isPrintable_char (q : Quote) : isPrintable q.char.toNat = true := by
  cases q <;> exact isPrintable_of_ascii (by decide) (by decide)

lemma isPrintable_of_mem_hex {width n : Nat} {c : Char} (h : c ∈ Numeral.hex width n) :
    isPrintable c.toNat = true := by
  obtain ⟨d, hd, rfl⟩ := Numeral.mem_hex h
  have hascii : ∀ k < 16, 0x20 ≤ (Nat.digitChar k).toNat ∧ (Nat.digitChar k).toNat < 0x7F := by
    decide
  exact isPrintable_of_ascii (hascii d hd).1 (hascii d hd).2

lemma isPrintable_of_mem_numeric (lead : Char) {c : Char} {width n : Nat}
    (hlow : 0x20 ≤ lead.toNat) (hhigh : lead.toNat < 0x7F)
    (h : c ∈ '\\' :: lead :: Numeral.hex width n) : isPrintable c.toNat = true := by
  simp only [List.mem_cons] at h
  rcases h with rfl | rfl | hdigit
  · exact isPrintable_of_ascii (by decide) (by decide)
  · exact isPrintable_of_ascii hlow hhigh
  · exact isPrintable_of_mem_hex hdigit

lemma isPrintable_of_mem_writeItem {q : Quote} {p : CodePoint} {c : Char}
    (h : c ∈ writeItem (.quote q) p) : isPrintable c.toNat = true := by
  unfold writeItem at h
  by_cases hquote : Text.codePoints (Delimiter.quote q).text = [p]
  · rw [if_pos hquote] at h
    have hc : c = q.char := by simpa [Delimiter.text] using h
    rw [hc]
    exact isPrintable_char q
  · rw [if_neg hquote] at h
    cases hname : escapeName? p with
    | some name =>
      obtain ⟨meaning, hmem, -⟩ := exists_meaning_of_escapeName? hname
      have hnames : ∀ entry ∈ Escape.named, 0x20 ≤ entry.1.toNat ∧ entry.1.toNat < 0x7F := by
        decide
      have hascii := hnames _ hmem
      simp only [hname, List.mem_cons, List.not_mem_nil, or_false] at h
      rcases h with rfl | rfl
      · exact isPrintable_of_ascii (by decide) (by decide)
      · exact isPrintable_of_ascii hascii.1 hascii.2
    | none =>
      simp only [hname] at h
      split_ifs at h with hcontrol hprintable
      · exact isPrintable_of_mem_numeric 'x' (by decide) (by decide) h
      · obtain rfl := List.mem_singleton.1 h
        rw [← CodePoint.val_ofChar, ofChar_ofNat_of_isPrintable hprintable]
        exact hprintable
      · exact isPrintable_of_mem_numeric 'U' (by decide) (by decide) h

lemma isPrintable_of_mem_write {q : Quote} {value : List CodePoint} {c : Char}
    (h : c ∈ write (.quote q) value) : isPrintable c.toNat = true := by
  simp only [write, List.mem_append, List.mem_flatMap] at h
  have hquote : c ∈ (Delimiter.quote q).text → isPrintable c.toNat = true := by
    intro hmem
    obtain rfl := List.mem_singleton.1 hmem
    exact isPrintable_char q
  rcases h with (hopen | ⟨p, -, hitem⟩) | hclose
  · exact hquote hopen
  · exact isPrintable_of_mem_writeItem hitem
  · exact hquote hclose

/-- **Reading undoes writing.**  A value between quotes is read back from what was written, whatever
follows that is not the quote.  What is written is printable: it holds no control, no line break and
no surrogate. -/
theorem read?_write (q : Quote) (value : List CodePoint) (behind : Text)
    (h : behind.head? ≠ some q.char) :
    read? (write (.quote q) value ++ behind) =
        some (.ok ⟨write (.quote q) value, value, q, false⟩) ∧
      ∀ c ∈ write (.quote q) value, isPrintable c.toNat = true ∧
        0x20 ≤ c.toNat ∧ ¬ (0x7F ≤ c.toNat ∧ c.toNat ≤ 0x9F) ∧
        ¬ (0xD800 ≤ c.toNat ∧ c.toNat ≤ 0xDFFF) := by
  constructor
  · exact read?_of_standsAt ⟨spelled_write q value, behind, rfl, h⟩
  · intro c hc
    have hprintable := isPrintable_of_mem_write hc
    have hcontrol := not_control_of_isPrintable hprintable
    exact ⟨hprintable, hcontrol.1, hcontrol.2, not_surrogate_of_isPrintable hprintable⟩

/-- Both quotes, a tab, a bell and a surrogate, each in front of a digit. -/
theorem read?_write_surrogate :
    let value : List CodePoint := [0x22, 0x31, 0x27, 0x09, 0x31, 0x01, 0x31, 0xD800, 0x31]
    write (.quote .single) value = "'\"1''\\t1\\x011\\U0000d8001'".toList ∧
      "\"".toList.head? ≠ some Quote.single.char ∧
      read? (write (.quote .single) value ++ "\"".toList) =
        some (.ok ⟨write (.quote .single) value, value, .single, false⟩) := by
  intro value
  have hhead : "\"".toList.head? ≠ some Quote.single.char := by decide
  exact ⟨by decide +kernel, hhead, (read?_write .single value "\"".toList hhead).1⟩

end ScriptLexer.Literal
