import ScriptLexer.Literal
import ScriptLexer.Proofs.Literal.Escape

/-!
# The grammar of string literals

A literal is an opening, items and a quote.  Each item denotes one code point:

* two quotes denote one;
* a backslash and what `Escape.Spells` allows after it denote what is spelled there, unless the
  literal is verbatim;
* any other character denotes itself.

The main result, `read?_iff_standsAt`, says that reading accepts exactly these literals, that at
most one of them stands at the start of a line, and that it is read whatever follows it, as long as
this is not its quote once more.
-/

namespace ScriptLexer.Literal

/-- How an opening is written. -/
inductive Opening.Spelled : Opening → Text → Prop
  /-- The quote alone. -/
  | quoted (q : Quote) : Opening.Spelled ⟨q, false⟩ [q.char]
  /-- A letter `r` or a backslash in front of the quote. -/
  | verbatim {q : Quote} {lead : Char} :
      lead = 'r' ∨ lead = '\\' → Opening.Spelled ⟨q, true⟩ [lead, q.char]

/-- An item of a literal, in front of `behind`, and the code point that it denotes. -/
inductive Item (o : Opening) (behind : Text) : Text → CodePoint → Prop
  /-- The quote, written twice. -/
  | doubled : Item o behind [o.quote.char, o.quote.char] (CodePoint.ofChar o.quote.char)
  /-- An escape sequence. -/
  | escape {t : Text} {p : CodePoint} :
      o.verbatim = false → Escape.Spells behind t p → Item o behind ('\\' :: t) p
  /-- A character that stands for itself. -/
  | plain {c : Char} :
      c ≠ o.quote.char → (o.verbatim = false → c ≠ '\\') → Item o behind [c] (CodePoint.ofChar c)

/-- Items in front of `behind`, and the code points that they denote. -/
inductive Items (o : Opening) (behind : Text) : Text → List CodePoint → Prop
  | nil : Items o behind [] []
  | cons {t rest : Text} {p : CodePoint} {value : List CodePoint} :
      Item o (rest ++ behind) t p → Items o behind rest value →
        Items o behind (t ++ rest) (p :: value)

/-- A literal that is written by the rules. -/
inductive Spelled : Literal → Prop
  | mk {o : Opening} {opener items : Text} {value : List CodePoint} :
      o.Spelled opener → Items o [o.quote.char] items value →
        Spelled ⟨opener ++ items ++ [o.quote.char], value, o.quote, o.verbatim⟩

/-- The literal `l` stands at the start of a line, and its last quote is not doubled there. -/
def StandsAt (l : Literal) (line : Text) : Prop :=
  l.Spelled ∧ ∃ behind, line = l.raw ++ behind ∧ behind.head? ≠ some l.quote.char

/-! ## Openings -/

lemma ofChar?_eq_some_iff {c : Char} {q : Quote} : Quote.ofChar? c = some q ↔ c = q.char := by
  constructor
  · intro h
    unfold Quote.ofChar? at h
    split_ifs at h with hdouble hsingle
    · obtain rfl := Option.some.inj h
      exact hdouble
    · obtain rfl := Option.some.inj h
      exact hsingle
  · rintro rfl
    cases q <;> rfl

lemma opening_spelled_of_read? {o : Opening} {line inner : Text}
    (h : Opening.read? line = some (o, inner)) :
    ∃ opener, o.Spelled opener ∧ line = opener ++ inner := by
  unfold Opening.read? at h
  split at h
  · simp at h
  · rename_i c r
    split at h
    · rename_i q hq
      simp only [Option.some.injEq, Prod.mk.injEq] at h
      obtain ⟨rfl, rfl⟩ := h
      obtain rfl := ofChar?_eq_some_iff.1 hq
      exact ⟨[q.char], Opening.Spelled.quoted q, rfl⟩
    · split_ifs at h with hlead
      split at h
      · simp at h
      · rename_i d rest
        obtain ⟨q, hq, hpair⟩ := Option.map_eq_some_iff.1 h
        simp only [Prod.mk.injEq] at hpair
        obtain ⟨rfl, rfl⟩ := hpair
        obtain rfl := ofChar?_eq_some_iff.1 hq
        exact ⟨[c, q.char], Opening.Spelled.verbatim hlead, rfl⟩

lemma opening_read?_append {o : Opening} {opener : Text} (h : o.Spelled opener) (inner : Text) :
    Opening.read? (opener ++ inner) = some (o, inner) := by
  cases h with
  | quoted q => cases q <;> rfl
  | @verbatim q lead hlead => rcases hlead with rfl | rfl <;> cases q <;> rfl

/-! ## Items -/

/-- Of the text behind the items only the first character matters. -/
lemma Items.congr_behind {o : Opening} {behind behind' items : Text} {value : List CodePoint}
    (h : Items o behind items value) (hhead : behind'.head? = behind.head?) :
    Items o behind' items value := by
  induction h with
  | nil => exact Items.nil
  | @cons t rest p value hitem _ ih =>
    refine Items.cons ?_ ih
    have hnext : (rest ++ behind').head? = (rest ++ behind).head? := by
      rw [List.head?_append, List.head?_append, hhead]
    cases hitem with
    | doubled => exact Item.doubled
    | escape hv hspells => exact Item.escape hv (hspells.congr_behind hnext)
    | plain hquote hslash => exact Item.plain hquote hslash

/-! ## Bodies -/

/-- What follows an opening: items, the closing quote, and the text behind the literal. -/
def IsBody (o : Opening) (t : Text) (value : List CodePoint) (rest : Text) : Prop :=
  ∃ items, t = items ++ o.quote.char :: rest ∧ Items o (o.quote.char :: rest) items value ∧
    rest.head? ≠ some o.quote.char

lemma IsBody.close {o : Opening} {rest : Text} (h : rest.head? ≠ some o.quote.char) :
    IsBody o (o.quote.char :: rest) [] rest :=
  ⟨[], rfl, Items.nil, h⟩

lemma IsBody.cons {o : Opening} {first t rest : Text} {p : CodePoint} {value : List CodePoint}
    (hitem : Item o t first p) (h : IsBody o t value rest) :
    IsBody o (first ++ t) (p :: value) rest := by
  obtain ⟨items, rfl, hitems, hhead⟩ := h
  exact ⟨first ++ items, (List.append_assoc _ _ _).symm, Items.cons hitem hitems, hhead⟩

lemma prepend_eq_ok_iff {p : CodePoint} {r : Except Fault (List CodePoint × Text)}
    {value : List CodePoint} {rest : Text} :
    prepend p r = .ok (value, rest) ↔ ∃ value', value = p :: value' ∧ r = .ok (value', rest) := by
  constructor
  · intro h
    cases r with
    | error fault => simp [prepend] at h
    | ok pair =>
      simp only [prepend, Except.ok.injEq, Prod.mk.injEq] at h
      obtain ⟨rfl, rfl⟩ := h
      exact ⟨pair.1, rfl, rfl⟩
  · rintro ⟨value', rfl, rfl⟩
    rfl

lemma isBody_of_body {o : Opening} {t rest : Text} {value : List CodePoint}
    (h : body o t = .ok (value, rest)) : IsBody o t value rest := by
  fun_induction body o t generalizing value with
  | case1 => simp at h
  | case2 =>
    simp only [Except.ok.injEq, Prod.mk.injEq] at h
    obtain ⟨rfl, rfl⟩ := h
    exact IsBody.close (by simp)
  | case3 r ih =>
    -- two quotes are an item even where the literal could end
    obtain ⟨value', rfl, hr⟩ := prepend_eq_ok_iff.1 h
    exact IsBody.cons Item.doubled (ih hr)
  | case4 d r hd =>
    simp only [Except.ok.injEq, Prod.mk.injEq] at h
    obtain ⟨rfl, rfl⟩ := h
    exact IsBody.close (by simpa using hd)
  | case5 => simp at h
  | case6 c r hc hslash p rest' hread ih =>
    obtain ⟨rfl, hv⟩ := hslash
    obtain ⟨value', rfl, hr⟩ := prepend_eq_ok_iff.1 h
    obtain ⟨text, rfl, hspells⟩ := Escape.read_eq_ok_iff.1 hread
    exact IsBody.cons (Item.escape hv hspells) (ih hr)
  | case7 c r hc hslash ih =>
    obtain ⟨value', rfl, hr⟩ := prepend_eq_ok_iff.1 h
    exact IsBody.cons (Item.plain hc fun hv hbackslash => hslash ⟨hbackslash, hv⟩) (ih hr)

lemma char_ne_backslash (q : Quote) : '\\' ≠ q.char := by
  cases q <;> decide

/-- The items in front of a body are read one by one. -/
lemma body_append_of_item {o : Opening} {first t : Text} {p : CodePoint}
    (h : Item o t first p) : body o (first ++ t) = prepend p (body o t) := by
  cases h with
  | doubled =>
    rw [List.cons_append, List.singleton_append, body]
    simp
  | @escape text _ hv hspells =>
    rw [List.cons_append, body.eq_def]
    simp only [char_ne_backslash, hv, and_self, if_true, if_false]
    split
    · rename_i fault hread
      simp [Escape.read_of_spells hspells] at hread
    · rename_i p' rest hread
      rw [Escape.read_of_spells hspells] at hread
      simp only [Except.ok.injEq, Prod.mk.injEq] at hread
      obtain ⟨rfl, rfl⟩ := hread
      rfl
  | @plain c hquote hslash =>
    have hplain : ¬ (c = '\\' ∧ o.verbatim = false) := fun h => hslash h.2 h.1
    rw [List.singleton_append, body.eq_def]
    simp only [hquote, hplain, if_false]

lemma body_of_isBody {o : Opening} {t rest : Text} {value : List CodePoint}
    (h : IsBody o t value rest) : body o t = .ok (value, rest) := by
  obtain ⟨items, rfl, hitems, hhead⟩ := h
  induction hitems with
  | nil =>
    rw [List.nil_append, body.eq_def]
    cases rest with
    | nil => simp
    | cons d rest =>
      have hd : d ≠ o.quote.char := by simpa using hhead
      simp [hd]
  | cons hitem _ ih =>
    rw [List.append_assoc, body_append_of_item hitem, ih]
    rfl

/-! ## Literals -/

/-- The text of a literal is what was taken off the line. -/
lemma take_length_sub (raw rest : Text) :
    (raw ++ rest).take ((raw ++ rest).length - rest.length) = raw := by
  rw [List.length_append, Nat.add_sub_cancel, List.take_left]

lemma standsAt_of_read? {line : Text} {l : Literal} (h : read? line = some (.ok l)) :
    l.StandsAt line := by
  unfold read? at h
  obtain ⟨⟨o, inner⟩, hopen, hread⟩ := Option.map_eq_some_iff.1 h
  obtain ⟨opener, hopener, rfl⟩ := opening_spelled_of_read? hopen
  cases hbody : body o inner with
  | error fault => simp [hbody] at hread
  | ok pair =>
    obtain ⟨value, rest⟩ := pair
    obtain ⟨items, rfl, hitems, hhead⟩ := isBody_of_body hbody
    have hline : opener ++ (items ++ o.quote.char :: rest) =
        opener ++ items ++ [o.quote.char] ++ rest := by
      simp
    simp only [hbody, Except.ok.injEq, hline, take_length_sub] at hread
    subst hread
    exact ⟨Spelled.mk hopener (hitems.congr_behind rfl), rest, hline, hhead⟩

lemma read?_of_standsAt {line : Text} {l : Literal} (h : l.StandsAt line) :
    read? line = some (.ok l) := by
  obtain ⟨hspelled, behind, rfl, hhead⟩ := h
  cases hspelled with
  | @mk o opener items value hopener hitems =>
    have hline : opener ++ items ++ [o.quote.char] ++ behind =
        opener ++ (items ++ o.quote.char :: behind) := by
      simp
    have hbody : body o (items ++ o.quote.char :: behind) = .ok (value, behind) :=
      body_of_isBody ⟨items, rfl, hitems.congr_behind rfl, hhead⟩
    have hopen := opening_read?_append hopener (items ++ o.quote.char :: behind)
    rw [← hline] at hopen
    simp only [read?, hopen, Option.map_some, hbody, take_length_sub]

/-- Reading a literal accepts exactly the literal that stands at the start of the line. -/
lemma read?_eq_some_ok_iff {line : Text} {l : Literal} :
    read? line = some (.ok l) ↔ l.StandsAt line :=
  ⟨standsAt_of_read?, read?_of_standsAt⟩

/-- **The grammar of literals.**  Reading a line gives a literal exactly if this literal stands at
its start.  There is at most one such literal, and the same one is read when the text behind it is
replaced by any other that does not begin with its quote. -/
theorem read?_iff_standsAt (line : Text) :
    (∀ l, read? line = some (.ok l) ↔ l.StandsAt line) ∧
      (∀ l l' : Literal, l.StandsAt line → l'.StandsAt line → l.raw = l'.raw ∧ l = l') ∧
      (∀ l : Literal, l.StandsAt line → ∀ behind : Text, behind.head? ≠ some l.quote.char →
        read? (l.raw ++ behind) = some (.ok l)) := by
  refine ⟨fun l => read?_eq_some_ok_iff, fun l l' h h' => ?_, fun l h behind hhead => ?_⟩
  · have heq := (read?_of_standsAt h).symm.trans (read?_of_standsAt h')
    simp only [Option.some.injEq, Except.ok.injEq] at heq
    exact ⟨congrArg Literal.raw heq, heq⟩
  · exact read?_of_standsAt ⟨h.1, behind, rfl, hhead⟩

/-- A doubled quote, a full hexadecimal number before a digit, and an octal number. -/
theorem read?_iff_standsAt_numbers :
    let l : Literal :=
      { raw := "\"a\"\"\\x412\\0101\"".toList, value := [97, 34, 65, 50, 65], quote := .double,
        verbatim := false }
    l.StandsAt (l.raw ++ " + 1".toList) ∧ read? (l.raw ++ "'".toList) = some (.ok l) := by
  intro l
  have hread : read? (l.raw ++ " + 1".toList) = some (.ok l) := by decide +kernel
  have hstands := ((read?_iff_standsAt (l.raw ++ " + 1".toList)).1 l).1 hread
  exact ⟨hstands, (read?_iff_standsAt _).2.2 l hstands "'".toList (by decide)⟩

end ScriptLexer.Literal
