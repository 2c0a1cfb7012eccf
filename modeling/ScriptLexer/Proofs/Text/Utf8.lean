import Mathlib.Data.List.Basic
import ScriptLexer.Text.Utf8

/-!
# UTF-8 and its standard encoding

The standard encoding of a character is `String.utf8EncodeChar`, and a text is encoded character by
character (`encode`).  Decoding is strict: it accepts exactly the encodings of texts, and gives the
text (`decode_eq_ok_iff`).  So bytes are UTF-8 if they are the encoding of some text (`Valid`).

The bytes of a single code point are described by `Sequence`, one form for each number of bytes.
They are what the standard encoding gives, and what is read at the start of some bytes.
-/

namespace ScriptLexer.Utf8

/-- The bytes that encode a text. -/
def encode (t : Text) : List UInt8 := t.flatMap String.utf8EncodeChar

/-- The bytes encode some text. -/
def Valid (bytes : List UInt8) : Prop := ∃ t, encode t = bytes

@[simp] lemma encode_nil : encode [] = [] := rfl

@[simp] lemma encode_cons (c : Char) (t : Text) :
    encode (c :: t) = String.utf8EncodeChar c ++ encode t := rfl

lemma encode_append (t t' : Text) : encode (t ++ t') = encode t ++ encode t' :=
  List.flatMap_append

@[simp] lemma encode_eq_nil_iff {t : Text} : encode t = [] ↔ t = [] := by
  cases t with
  | nil => simp
  | cons c t => simp

/-! ## The bytes of a character -/

/-- A byte that follows a lead byte. -/
def Tail (b : UInt8) : Prop := 0x80 ≤ b.toNat ∧ b.toNat ≤ 0xBF

/-- The bytes of a code point.  The bounds on the second byte exclude forms that are longer than
needed, surrogates, and what lies beyond the last plane. -/
inductive Sequence : Nat → List UInt8 → Prop
  | one {a : UInt8} : a.toNat < 0x80 → Sequence a.toNat [a]
  | two {a b : UInt8} : 0xC2 ≤ a.toNat → a.toNat < 0xE0 → Tail b →
      Sequence (64 * (a.toNat - 0xC0) + (b.toNat - 0x80)) [a, b]
  | three {a b c : UInt8} : 0xE0 ≤ a.toNat → a.toNat < 0xF0 → Tail b → Tail c →
      (a.toNat = 0xE0 → 0xA0 ≤ b.toNat) → (a.toNat = 0xED → b.toNat ≤ 0x9F) →
      Sequence (64 * (64 * (a.toNat - 0xE0) + (b.toNat - 0x80)) + (c.toNat - 0x80)) [a, b, c]
  | four {a b c d : UInt8} : 0xF0 ≤ a.toNat → a.toNat < 0xF5 → Tail b → Tail c → Tail d →
      (a.toNat = 0xF0 → 0x90 ≤ b.toNat) → (a.toNat = 0xF4 → b.toNat ≤ 0x8F) →
      Sequence (64 * (64 * (64 * (a.toNat - 0xF0) + (b.toNat - 0x80)) + (c.toNat - 0x80)) +
        (d.toNat - 0x80)) [a, b, c, d]

/-! ### The standard encoding gives such bytes -/

/-- The code points of characters: no surrogate, and nothing beyond the last plane. -/
lemma toNat_lt (c : Char) : c.toNat < 0xD800 ∨ 0xDFFF < c.toNat ∧ c.toNat < 0x110000 := c.valid

lemma encodeChar_of_lt_80 {c : Char} (h : c.toNat < 0x80) :
    String.utf8EncodeChar c = [UInt8.ofNat c.toNat] := by
  have hle : c.val.toNat ≤ 0x7F := Nat.le_of_lt_succ h
  simp only [String.utf8EncodeChar, hle, if_true]
  rfl

lemma encodeChar_of_lt_800 {c : Char} (hlow : 0x80 ≤ c.toNat) (h : c.toNat < 0x800) :
    String.utf8EncodeChar c =
      [UInt8.ofNat (c.toNat / 64 + 0xC0), UInt8.ofNat (c.toNat % 64 + 0x80)] := by
  have hnot : ¬ c.val.toNat ≤ 0x7F := Nat.not_le.2 hlow
  have hle : c.val.toNat ≤ 0x7FF := Nat.le_of_lt_succ h
  have hlead : c.toNat / 64 % 0x20 = c.toNat / 64 := by omega
  simp only [String.utf8EncodeChar, hnot, hle, if_true, if_false]
  rw [← hlead]
  rfl

lemma encodeChar_of_lt_10000 {c : Char} (hlow : 0x800 ≤ c.toNat) (h : c.toNat < 0x10000) :
    String.utf8EncodeChar c = [UInt8.ofNat (c.toNat / 4096 + 0xE0),
      UInt8.ofNat (c.toNat / 64 % 64 + 0x80), UInt8.ofNat (c.toNat % 64 + 0x80)] := by
  have hnot : ¬ c.val.toNat ≤ 0x7F := Nat.not_le.2 (Nat.le_trans (by decide) hlow)
  have hnot' : ¬ c.val.toNat ≤ 0x7FF := Nat.not_le.2 hlow
  have hle : c.val.toNat ≤ 0xFFFF := Nat.le_of_lt_succ h
  have hlead : c.toNat / 4096 % 0x10 = c.toNat / 4096 := by omega
  simp only [String.utf8EncodeChar, hnot, hnot', hle, if_true, if_false]
  rw [← hlead]
  rfl

lemma encodeChar_of_10000_le {c : Char} (hlow : 0x10000 ≤ c.toNat) :
    String.utf8EncodeChar c = [UInt8.ofNat (c.toNat / 262144 + 0xF0),
      UInt8.ofNat (c.toNat / 4096 % 64 + 0x80), UInt8.ofNat (c.toNat / 64 % 64 + 0x80),
      UInt8.ofNat (c.toNat % 64 + 0x80)] := by
  have hnot : ¬ c.val.toNat ≤ 0x7F := Nat.not_le.2 (Nat.le_trans (by decide) hlow)
  have hnot' : ¬ c.val.toNat ≤ 0x7FF := Nat.not_le.2 (Nat.le_trans (by decide) hlow)
  have hnot'' : ¬ c.val.toNat ≤ 0xFFFF := Nat.not_le.2 hlow
  have hlead : c.toNat / 262144 % 0x08 = c.toNat / 262144 := by
    have hchar := toNat_lt c
    omega
  simp only [String.utf8EncodeChar, hnot, hnot', hnot'', if_false]
  rw [← hlead]
  rfl

lemma sequence_encodeChar (c : Char) : Sequence c.toNat (String.utf8EncodeChar c) := by
  have hchar := toNat_lt c
  have hbyte : ∀ n, n < 256 → (UInt8.ofNat n).toNat = n := fun n hn => UInt8.toNat_ofNat_of_lt' hn
  have htoNat : ∀ n, (UInt8.ofNat (n % 64 + 0x80)).toNat = n % 64 + 0x80 := fun n =>
    hbyte _ (by omega)
  have htail : ∀ n, Tail (UInt8.ofNat (n % 64 + 0x80)) := by
    intro n
    rw [Tail, htoNat]
    omega
  rcases Nat.lt_or_ge c.toNat 0x80 with h80 | h80
  · have ha := hbyte c.toNat (by omega)
    rw [encodeChar_of_lt_80 h80]
    convert Sequence.one (ha ▸ h80) using 1
    exact ha.symm
  rcases Nat.lt_or_ge c.toNat 0x800 with h800 | h800
  · have ha := hbyte (c.toNat / 64 + 0xC0) (by omega)
    rw [encodeChar_of_lt_800 h80 h800]
    convert Sequence.two (a := UInt8.ofNat (c.toNat / 64 + 0xC0)) (by omega) (by omega)
      (htail c.toNat) using 1
    rw [ha, htoNat]
    omega
  rcases Nat.lt_or_ge c.toNat 0x10000 with h10000 | h10000
  · have ha := hbyte (c.toNat / 4096 + 0xE0) (by omega)
    have hb := htoNat (c.toNat / 64)
    rw [encodeChar_of_lt_10000 h800 h10000]
    convert Sequence.three (a := UInt8.ofNat (c.toNat / 4096 + 0xE0)) (by omega) (by omega)
      (htail (c.toNat / 64)) (htail c.toNat) (by omega) (by omega) using 1
    rw [ha, hb, htoNat]
    omega
  · have ha := hbyte (c.toNat / 262144 + 0xF0) (by omega)
    have hb := htoNat (c.toNat / 4096)
    rw [encodeChar_of_10000_le h10000]
    convert Sequence.four (a := UInt8.ofNat (c.toNat / 262144 + 0xF0)) (by omega) (by omega)
      (htail (c.toNat / 4096)) (htail (c.toNat / 64)) (htail c.toNat) (by omega) (by omega) using 1
    rw [ha, hb, htoNat, htoNat]
    omega

/-- The bytes of a code point are the standard encoding of its character. -/
lemma Sequence.encodeChar_eq {n : Nat} {bytes : List UInt8} (h : Sequence n bytes) :
    String.utf8EncodeChar (Char.ofNat n) = bytes := by
  have hbyte : ∀ {m : Nat} {a : UInt8}, m = a.toNat → UInt8.ofNat m = a := by
    rintro _ a rfl
    exact UInt8.ofNat_toNat
  have hchar : ∀ n, (n < 0xD800 ∨ 0xDFFF < n ∧ n < 0x110000) → (Char.ofNat n).toNat = n := by
    intro n hn
    rw [Char.ofNat, dif_pos (show n.isValidChar from hn)]
    rfl
  cases h with
  | @one a ha =>
    have hn := hchar a.toNat (by omega)
    rw [encodeChar_of_lt_80 (by omega), hn, hbyte rfl]
  | @two a b ha ha' hb =>
    unfold Tail at hb
    have hn := hchar (64 * (a.toNat - 0xC0) + (b.toNat - 0x80)) (by omega)
    rw [encodeChar_of_lt_800 (by omega) (by omega), hn, hbyte (a := a) (by omega),
      hbyte (a := b) (by omega)]
  | @three a b c ha ha' hb hc hlow hhigh =>
    unfold Tail at hb hc
    have hn := hchar (64 * (64 * (a.toNat - 0xE0) + (b.toNat - 0x80)) + (c.toNat - 0x80))
      (by omega)
    rw [encodeChar_of_lt_10000 (by omega) (by omega), hn, hbyte (a := a) (by omega),
      hbyte (a := b) (by omega), hbyte (a := c) (by omega)]
  | @four a b c d ha ha' hb hc hd hlow hhigh =>
    unfold Tail at hb hc hd
    have hn := hchar (64 * (64 * (64 * (a.toNat - 0xF0) + (b.toNat - 0x80)) + (c.toNat - 0x80)) +
      (d.toNat - 0x80)) (by omega)
    rw [encodeChar_of_10000_le (by omega), hn, hbyte (a := a) (by omega),
      hbyte (a := b) (by omega), hbyte (a := c) (by omega), hbyte (a := d) (by omega)]

/-! ### Such bytes are read -/

lemma lead_of_lt_80 {a : UInt8} (h : a.toNat < 0x80) :
    Lead.ofByte? a = some ⟨a.toNat, 0, 0x80, 0xBF⟩ := by
  simp only [Lead.ofByte?, h, if_true]

lemma lead_of_lt_E0 {a : UInt8} (hlow : 0xC2 ≤ a.toNat) (h : a.toNat < 0xE0) :
    Lead.ofByte? a = some ⟨a.toNat - 0xC0, 1, 0x80, 0xBF⟩ := by
  simp only [Lead.ofByte?]
  rw [if_neg (by omega), if_neg (by omega), if_pos h]

lemma lead_of_lt_F0 {a : UInt8} (hlow : 0xE0 ≤ a.toNat) (h : a.toNat < 0xF0) :
    Lead.ofByte? a = some ⟨a.toNat - 0xE0, 2, if a.toNat = 0xE0 then 0xA0 else 0x80,
      if a.toNat = 0xED then 0x9F else 0xBF⟩ := by
  simp only [Lead.ofByte?]
  rw [if_neg (by omega), if_neg (by omega), if_neg (by omega), if_pos h]

lemma lead_of_lt_F5 {a : UInt8} (hlow : 0xF0 ≤ a.toNat) (h : a.toNat < 0xF5) :
    Lead.ofByte? a = some ⟨a.toNat - 0xF0, 3, if a.toNat = 0xF0 then 0x90 else 0x80,
      if a.toNat = 0xF4 then 0x8F else 0xBF⟩ := by
  simp only [Lead.ofByte?]
  rw [if_neg (by omega), if_neg (by omega), if_neg (by omega), if_neg (by omega), if_pos h]

lemma lead_eq_none {a : UInt8} (h : 0x80 ≤ a.toNat ∧ a.toNat < 0xC2 ∨ 0xF5 ≤ a.toNat) :
    Lead.ofByte? a = none := by
  simp only [Lead.ofByte?]
  split_ifs <;> first | rfl | omega

lemma following_succ {least greatest count bits : Nat} {b : UInt8} {r : List UInt8}
    (hlow : least ≤ b.toNat) (hhigh : b.toNat ≤ greatest) :
    following least greatest (count + 1) bits (b :: r) =
      following 0x80 0xBF count (64 * bits + (b.toNat - 0x80)) r := by
  rw [following, if_pos ⟨hlow, hhigh⟩]

lemma following_tail {count bits : Nat} {b : UInt8} {r : List UInt8} (h : Tail b) :
    following 0x80 0xBF (count + 1) bits (b :: r) =
      following 0x80 0xBF count (64 * bits + (b.toNat - 0x80)) r := following_succ h.1 h.2

lemma following_succ_eq_ok {least greatest count bits n : Nat} {bytes rest : List UInt8}
    (h : following least greatest (count + 1) bits bytes = .ok (n, rest)) :
    ∃ b r, bytes = b :: r ∧ least ≤ b.toNat ∧ b.toNat ≤ greatest ∧
      following 0x80 0xBF count (64 * bits + (b.toNat - 0x80)) r = .ok (n, rest) := by
  cases bytes with
  | nil => cases h
  | cons b r =>
    rw [following] at h
    split_ifs at h with hrange
    exact ⟨b, r, rfl, hrange.1, hrange.2, h⟩

lemma following_zero_eq_ok {least greatest bits n : Nat} {bytes rest : List UInt8}
    (h : following least greatest 0 bits bytes = .ok (n, rest)) : bits = n ∧ bytes = rest :=
  Prod.mk.inj (Except.ok.inj h)

/-- The bytes of a code point are read as this code point, whatever follows them. -/
lemma Sequence.exists_lead {n : Nat} {bytes : List UInt8} (h : Sequence n bytes)
    (rest : List UInt8) :
    ∃ a r lead, bytes ++ rest = a :: r ∧ Lead.ofByte? a = some lead ∧
      following lead.least lead.greatest lead.following lead.bits r = .ok (n, rest) := by
  cases h with
  | @one a ha => exact ⟨a, rest, _, rfl, lead_of_lt_80 ha, rfl⟩
  | @two a b ha ha' hb =>
    refine ⟨a, b :: rest, _, rfl, lead_of_lt_E0 ha ha', ?_⟩
    dsimp only
    rw [following_tail hb, following]
  | @three a b c ha ha' hb hc hlow hhigh =>
    have hleast : (if a.toNat = 0xE0 then 0xA0 else 0x80) ≤ b.toNat := by
      split_ifs with h
      exacts [hlow h, hb.1]
    have hgreatest : b.toNat ≤ (if a.toNat = 0xED then 0x9F else 0xBF) := by
      split_ifs with h
      exacts [hhigh h, hb.2]
    refine ⟨a, b :: c :: rest, _, rfl, lead_of_lt_F0 ha ha', ?_⟩
    dsimp only
    rw [following_succ hleast hgreatest, following_tail hc, following]
  | @four a b c d ha ha' hb hc hd hlow hhigh =>
    have hleast : (if a.toNat = 0xF0 then 0x90 else 0x80) ≤ b.toNat := by
      split_ifs with h
      exacts [hlow h, hb.1]
    have hgreatest : b.toNat ≤ (if a.toNat = 0xF4 then 0x8F else 0xBF) := by
      split_ifs with h
      exacts [hhigh h, hb.2]
    refine ⟨a, b :: c :: d :: rest, _, rfl, lead_of_lt_F5 ha ha', ?_⟩
    dsimp only
    rw [following_succ hleast hgreatest, following_tail hc, following_tail hd, following]

/-- What is read as a code point are its bytes. -/
lemma exists_sequence_of_lead {a : UInt8} {r rest : List UInt8} {lead : Lead} {n : Nat}
    (hlead : Lead.ofByte? a = some lead)
    (h : following lead.least lead.greatest lead.following lead.bits r = .ok (n, rest)) :
    ∃ bytes, Sequence n bytes ∧ bytes ++ rest = a :: r := by
  by_cases hnone : 0x80 ≤ a.toNat ∧ a.toNat < 0xC2 ∨ 0xF5 ≤ a.toNat
  · rw [lead_eq_none hnone] at hlead
    cases hlead
  rcases Nat.lt_or_ge a.toNat 0x80 with h80 | h80
  · obtain rfl := Option.some.inj ((lead_of_lt_80 h80).symm.trans hlead)
    obtain ⟨rfl, rfl⟩ := following_zero_eq_ok h
    exact ⟨[a], Sequence.one h80, rfl⟩
  rcases Nat.lt_or_ge a.toNat 0xE0 with hE0 | hE0
  · have hC2 : 0xC2 ≤ a.toNat := by omega
    obtain rfl := Option.some.inj ((lead_of_lt_E0 hC2 hE0).symm.trans hlead)
    obtain ⟨b, r, rfl, hlow, hhigh, h⟩ := following_succ_eq_ok h
    obtain ⟨rfl, rfl⟩ := following_zero_eq_ok h
    exact ⟨[a, b], Sequence.two hC2 hE0 ⟨hlow, hhigh⟩, rfl⟩
  rcases Nat.lt_or_ge a.toNat 0xF0 with hF0 | hF0
  · obtain rfl := Option.some.inj ((lead_of_lt_F0 hE0 hF0).symm.trans hlead)
    obtain ⟨b, r, rfl, hlow, hhigh, h⟩ := following_succ_eq_ok h
    obtain ⟨c, r, rfl, hlow', hhigh', h⟩ := following_succ_eq_ok h
    obtain ⟨rfl, rfl⟩ := following_zero_eq_ok h
    dsimp only at hlow hhigh
    refine ⟨[a, b, c], Sequence.three hE0 hF0 ⟨?_, ?_⟩ ⟨hlow', hhigh'⟩ ?_ ?_, rfl⟩
    all_goals split_ifs at hlow hhigh <;> omega
  · have hF5 : a.toNat < 0xF5 := by omega
    obtain rfl := Option.some.inj ((lead_of_lt_F5 hF0 hF5).symm.trans hlead)
    obtain ⟨b, r, rfl, hlow, hhigh, h⟩ := following_succ_eq_ok h
    obtain ⟨c, r, rfl, hlow', hhigh', h⟩ := following_succ_eq_ok h
    obtain ⟨d, r, rfl, hlow'', hhigh'', h⟩ := following_succ_eq_ok h
    obtain ⟨rfl, rfl⟩ := following_zero_eq_ok h
    dsimp only at hlow hhigh
    refine ⟨[a, b, c, d],
      Sequence.four hF0 hF5 ⟨?_, ?_⟩ ⟨hlow', hhigh'⟩ ⟨hlow'', hhigh''⟩ ?_ ?_, rfl⟩
    all_goals split_ifs at hlow hhigh <;> omega

/-! ## Texts -/

/-- A character in front of any bytes is decoded first. -/
lemma decode_encodeChar_append (c : Char) (rest : List UInt8) :
    decode (String.utf8EncodeChar c ++ rest) = (decode rest).map (c :: ·) := by
  obtain ⟨a, r, lead, hbytes, hlead, hfollowing⟩ := (sequence_encodeChar c).exists_lead rest
  rw [hbytes, decode]
  simp only [hlead]
  split
  · rename_i fault hfault
    rw [hfollowing] at hfault
    cases hfault
  · rename_i n rest' hok
    rw [hfollowing] at hok
    obtain ⟨rfl, rfl⟩ := Prod.mk.inj (Except.ok.inj hok)
    rw [Char.ofNat_toNat]
    cases decode rest <;> rfl

lemma decode_encode (t : Text) : decode (encode t) = .ok t := by
  induction t with
  | nil => rw [encode_nil, decode]
  | cons c t ih =>
    rw [encode_cons, decode_encodeChar_append, ih]
    rfl

lemma encode_of_decode {bytes : List UInt8} {t : Text} (h : decode bytes = .ok t) :
    encode t = bytes := by
  fun_induction decode bytes generalizing t with
  | case1 => cases h; rfl
  | case2 => cases h
  | case3 => cases h
  | case4 => cases h
  | case5 b r lead hlead n rest hrest t' ht' ih =>
    obtain rfl := Except.ok.inj h
    obtain ⟨bytes, hbytes, happend⟩ := exists_sequence_of_lead hlead hrest
    rw [encode_cons, ih ht', hbytes.encodeChar_eq, happend]

/-- **Decoding is strict.**  It gives a text exactly on the encoding of this text. -/
theorem decode_eq_ok_iff {bytes : List UInt8} {t : Text} :
    decode bytes = .ok t ↔ encode t = bytes := by
  constructor
  · exact encode_of_decode
  · rintro rfl
    exact decode_encode t

/-- Bytes are refused exactly if they encode no text. -/
lemma exists_decode_eq_error_iff {bytes : List UInt8} :
    (∃ fault, decode bytes = .error fault) ↔ ¬ Valid bytes := by
  constructor
  · rintro ⟨fault, hfault⟩ ⟨t, rfl⟩
    rw [decode_encode] at hfault
    cases hfault
  · intro hnot
    cases hdecode : decode bytes with
    | error fault => exact ⟨fault, rfl⟩
    | ok t => exact absurd ⟨t, encode_of_decode hdecode⟩ hnot

lemma Valid.append {bytes bytes' : List UInt8} (h : Valid bytes) (h' : Valid bytes') :
    Valid (bytes ++ bytes') := by
  obtain ⟨t, rfl⟩ := h
  obtain ⟨t', rfl⟩ := h'
  exact ⟨t ++ t', encode_append t t'⟩

/-! ## The line feed -/

lemma encodeChar_lineFeed : String.utf8EncodeChar '\n' = [0x0A] := rfl

/-- The byte of the line feed is part of no other code point. -/
lemma Sequence.eq_lineFeed {n : Nat} {bytes : List UInt8} (h : Sequence n bytes)
    (hmem : 0x0A ∈ bytes) : n = 0x0A := by
  have hbyte : ∀ {b : UInt8}, 0x0A = b → b.toNat = 0x0A := by
    rintro _ rfl
    rfl
  cases h with
  | one ha => exact hbyte (List.mem_singleton.1 hmem)
  | two ha _ hb =>
    unfold Tail at hb
    simp only [List.mem_cons, List.not_mem_nil, or_false] at hmem
    rcases hmem with hmem | hmem
    all_goals
      have hnat := hbyte hmem
      omega
  | three ha _ hb hc _ _ =>
    unfold Tail at hb hc
    simp only [List.mem_cons, List.not_mem_nil, or_false] at hmem
    rcases hmem with hmem | hmem | hmem
    all_goals
      have hnat := hbyte hmem
      omega
  | four ha _ hb hc hd _ _ =>
    unfold Tail at hb hc hd
    simp only [List.mem_cons, List.not_mem_nil, or_false] at hmem
    rcases hmem with hmem | hmem | hmem | hmem
    all_goals
      have hnat := hbyte hmem
      omega

lemma lineFeed_notMem_encodeChar {c : Char} (h : c ≠ '\n') : 0x0A ∉ String.utf8EncodeChar c := by
  intro hmem
  exact h (Char.toNat_inj.1 ((sequence_encodeChar c).eq_lineFeed hmem))

end ScriptLexer.Utf8
