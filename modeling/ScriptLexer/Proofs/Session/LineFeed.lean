import ScriptLexer.Proofs.Session.ByteOrderMark
import ScriptLexer.Proofs.Session.Conservation
import ScriptLexer.Proofs.Session.Respacing
import ScriptLexer.Proofs.Session.Shape

/-!
# Line feeds in tokens

The text of a token is a piece of a line.  A line of a file holds no line feed but at its end, where it
is dropped, so no token of a file holds one (`lineFeed_notMem_of_tokenizeFile`).  A line that is handed
over can hold line feeds anywhere.  They are blanks, so of all tokens only a string literal can hold one
(`Lexeme.WellFormed.kind_of_lineFeed`).
-/

namespace ScriptLexer

/-! ## Kinds -/

lemma Table.lineFeed_notMem_spelling (k : Kind) : '\n' ∉ Table.standard.spelling k := by
  have hall : ∀ k ∈ Kind.all, '\n' ∉ Table.standard.spelling k := by decide +kernel
  exact hall k k.mem_all

/-- Only a string literal can hold a line feed. -/
lemma Lexeme.WellFormed.kind_of_lineFeed {caseless : Bool} {l : Lexeme}
    (h : l.WellFormed Table.standard caseless) (hlineFeed : '\n' ∈ l.text) :
    l.kind = .stringLiteral := by
  have hnumber : ¬ Number.Shape l.text := by
    intro hshape
    rcases hshape.parts '\n' hlineFeed with hdot | hpart
    · exact absurd hdot (by decide)
    · exact absurd hpart (by decide)
  unfold WellFormed at h
  cases hkind : l.kind with
  | stringLiteral => rfl
  | emptyLine =>
    rw [hkind] at h
    exact h.elim
  | operator o =>
    rw [hkind] at h
    rcases h.1 with htext | ⟨o', -, htext⟩
    · exact absurd (htext ▸ hlineFeed) (Table.lineFeed_notMem_spelling _)
    · exact absurd (htext ▸ hlineFeed) (Table.lineFeed_notMem_spelling _)
  | keyword k =>
    rw [hkind] at h
    exact absurd (h.1 ▸ hlineFeed) (Table.lineFeed_notMem_spelling _)
  | intLiteral =>
    rw [hkind] at h
    exact absurd h.1 hnumber
  | floatLiteral =>
    rw [hkind] at h
    exact absurd h.1 hnumber
  | identifier =>
    rw [hkind] at h
    have hpart := Name.isPart_of_mem_of_isValid h.1 '\n' hlineFeed
    exact absurd hpart (by decide)
  | endOfFile =>
    rw [hkind] at h
    exact absurd (h.1 ▸ hlineFeed) (by decide)

/-! ## Lines -/

namespace Text

lemma trim_isInfix (t : Text) : trim t <:+: t := by
  obtain ⟨b, ht, -⟩ := exists_blanks_append_trimStart t
  obtain ⟨b', ht', -⟩ := exists_trimEnd_append_blanks (trimStart t)
  refine ⟨b, b', ?_⟩
  rw [trim, List.append_assoc, ← ht', ← ht]

/-- A line feed at the end is dropped. -/
lemma lineFeed_notMem_trim {t : Text} (h : '\n' ∉ t.dropLast) : '\n' ∉ trim t := by
  rcases List.eq_nil_or_concat t with rfl | ⟨u, c, rfl⟩
  · simp [trim, trimStart, trimEnd]
  · rw [List.concat_eq_append] at h ⊢
    rw [List.dropLast_concat] at h
    by_cases hc : c = '\n'
    · subst hc
      have hblank : isBlank '\n' = true := rfl
      rw [trim_append_of_blanks (List.forall_mem_singleton.2 hblank)]
      exact fun hmem => h ((trim_isInfix u).subset hmem)
    · intro hmem
      rcases List.mem_append.1 ((trim_isInfix _).subset hmem) with hu | hlast
      · exact h hu
      · exact hc (List.mem_singleton.1 hlast).symm

end Text

/-- If the bytes of a line hold no line feed but at the end, neither does the line. -/
lemma Utf8.lineFeed_notMem_dropLast {bytes : List UInt8} {t : Text}
    (h : decode bytes = .ok t) (hbytes : 0x0A ∉ bytes.dropLast) : '\n' ∉ t.dropLast := by
  rcases List.eq_nil_or_concat t with rfl | ⟨u, c, rfl⟩
  · exact List.not_mem_nil
  · rw [List.concat_eq_append] at h ⊢
    rw [List.dropLast_concat]
    intro hmem
    apply hbytes
    rw [← encode_of_decode h, encode_append, encode_cons, encode_nil, List.append_nil,
      List.dropLast_append_of_ne_nil (by simp)]
    refine List.mem_append_left _ ?_
    exact List.mem_flatMap.2 ⟨'\n', hmem, by decide⟩

namespace Cursor

variable {r : Rules} {marked : Bool} {c last : Cursor} {ts : List Token} {t : Token}

/-! ## Tokens are pieces of their lines -/

lemma infix_of_scan (h : (scan r c).found = .ok (some t)) : t.text <:+: c.rest := by
  obtain ⟨-, -, g, rest, hline, -, -⟩ := gap_of_scan_eq_some h
  exact ⟨g, rest, hline.symm⟩

lemma Drains.infix_of_mem (h : Drains r c ts last) (ht : t ∈ ts) : t.text <:+: c.rest := by
  induction h with
  | done _ => cases ht
  | @token c last first others hscan _ ih =>
    rcases List.mem_cons.1 ht with rfl | hmem
    · exact infix_of_scan hscan
    · exact (ih hmem).trans (rest_scan_suffix r c).isInfix

/-- Each token is a piece of what is left of the line at hand, or of a line to come. -/
lemma infix_of_exhaust {chunks : List Chunk} (h : exhaust r marked c chunks = .ok (ts, last))
    (ht : t ∈ ts) :
    t.text <:+: c.rest ∨ ∃ chunk ∈ chunks, ∃ line, chunk.decode = .ok line ∧
      ∃ before : Cursor, t.text <:+: Text.trim (before.unmarked marked line) := by
  induction chunks generalizing c ts with
  | nil => exact Or.inl ((Drains.of_drain h).infix_of_mem ht)
  | cons chunk chunks ih =>
    rw [exhaust] at h
    obtain ⟨ts₁, c₁, ts₂, hdrain, hlater, rfl⟩ := Reading.andThen_eq_ok h
    rcases List.mem_append.1 ht with hfirst | hsecond
    · exact Or.inl ((Drains.of_drain hdrain).infix_of_mem hfirst)
    · right
      split_ifs at hlater with hempty
      · cases hlater
        cases hsecond
      · cases hdecode : chunk.decode with
        | error fault =>
          rw [hdecode] at hlater
          cases hlater
        | ok line =>
          rw [hdecode] at hlater
          rcases ih hlater hsecond with hline | ⟨later, hmem, found⟩
          · exact ⟨chunk, List.mem_cons_self, line, hdecode, c₁, hline⟩
          · exact ⟨later, List.mem_cons_of_mem _ hmem, found⟩

lemma unmarked_suffix (c : Cursor) (marked : Bool) (line : Text) : c.unmarked marked line <:+ line := by
  unfold unmarked
  split_ifs
  · exact List.dropWhile_suffix _
  · exact List.suffix_rfl

/-- Behind the mark of its source a line ends as it did before. -/
lemma lineFeed_notMem_unmarked (c : Cursor) (marked : Bool) {line : Text}
    (h : '\n' ∉ line.dropLast) : '\n' ∉ (c.unmarked marked line).dropLast := by
  obtain ⟨front, hline⟩ := unmarked_suffix c marked line
  by_cases hnil : c.unmarked marked line = []
  · rw [hnil]
    exact List.not_mem_nil
  · intro hmem
    rw [← hline, List.dropLast_append_of_ne_nil hnil] at h
    exact h (List.mem_append_right front hmem)

/-- No token of lines in bytes holds a line feed. -/
lemma lineFeed_notMem_of_exhaust {bytes : List UInt8} (hrest : c.rest = [])
    (h : exhaust r marked c ((cutAfter 0x0A bytes).map .bytes) = .ok (ts, last)) (ht : t ∈ ts) :
    '\n' ∉ t.text := by
  intro hlineFeed
  rcases infix_of_exhaust h ht with hline | ⟨chunk, hchunk, line, hdecode, before, hline⟩
  · rw [hrest] at hline
    exact absurd (hline.subset hlineFeed) List.not_mem_nil
  · obtain ⟨part, hpart, rfl⟩ := List.mem_map.1 hchunk
    have hbytes := mark_notMem_dropLast hpart
    have hend := Utf8.lineFeed_notMem_dropLast hdecode hbytes
    have htrim := Text.lineFeed_notMem_trim (lineFeed_notMem_unmarked before marked hend)
    exact htrim (hline.subset hlineFeed)

end Cursor

/-! ## Whole sources -/

/-- The tokens of a source are those of its lines and the one that ends it. -/
lemma Reading.mem_of_finish {r : Rules} {x : Reading} {us : List Token} {t : Token}
    (h : x.finish r = .ok us) (ht : t ∈ us) :
    t.kind = .endOfFile ∨ ∃ ts c, x = .ok (ts, c) ∧ t ∈ ts := by
  cases x with
  | error e => cases h
  | ok p =>
    obtain ⟨ts, c⟩ := p
    simp only [finish, Except.bind] at h
    cases hend : c.finish r with
    | error e =>
      rw [hend] at h
      cases h
    | ok last =>
      rw [hend] at h
      obtain rfl := Except.ok.inj h
      rcases List.mem_append.1 ht with hline | hlast
      · exact Or.inr ⟨ts, c, rfl, hline⟩
      · obtain rfl := List.mem_singleton.1 hlast
        exact Or.inl (Cursor.kind_of_finish hend)

section

variable {ts : List Token} {t : Token} {options : Options}

/-- A token of a single line is a piece of it. -/
lemma infix_of_tokenizeLine {line : Text} (h : (tokenizeLine line options).result = .ok ts)
    (ht : t ∈ ts) : t.text <:+: line := by
  obtain ⟨after, hreads⟩ := tokenizeLine_eq_ok_iff.1 h
  exact ((Session.drains_of_reads hreads).infix_of_mem ht).trans (Text.trim_isInfix line)

/-- No token of a file holds a line feed. -/
lemma lineFeed_notMem_of_tokenizeFile {files : FileSystem} {path : Text}
    (h : (tokenizeFile files path options).result = .ok ts) (ht : t ∈ ts) : '\n' ∉ t.text := by
  intro hlineFeed
  have hliteral := (wellFormed_of_tokenizeFile h t ht).kind_of_lineFeed hlineFeed
  cases hfile : files path with
  | error fault =>
    simp only [tokenizeFile, Session.openFile, OpenedFile.open, hfile] at h
    cases h
  | ok bytes =>
    cases hmark : (Mark.detect bytes).1.isSupported with
    | false =>
      rw [(tokenizeFile_of_unsupported options hfile hmark).1] at h
      cases h
    | true =>
      rw [tokenizeFile_of_supported options hfile hmark,
        tokenizeMarked_eq path options hmark rfl] at h
      cases hfinish : (Cursor.exhaust (textRules path options) ((Mark.detect bytes).1 = .utf8) {}
          (Stream.ofFile (bytes.drop (Mark.detect bytes).2)).chunks).finish
          (textRules path options) with
      | error e =>
        rw [hfinish] at h
        cases h
      | ok us =>
        rw [hfinish] at h
        obtain rfl := Except.ok.inj h
        rcases Reading.mem_of_finish hfinish ht with hend | ⟨inner, last, hreading, hmem⟩
        · rw [hliteral] at hend
          cases hend
        · exact Cursor.lineFeed_notMem_of_exhaust rfl hreading hmem hlineFeed

end

end ScriptLexer
