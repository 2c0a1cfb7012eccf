import ScriptLexer.Proofs.Session.Transparency
import ScriptLexer.Proofs.Text.Utf8

/-!
# Bytes and texts

A source can be given as a text or as bytes.  Bytes are cut into lines before they are decoded, each
line on its own.  The main result, `tokenizeStream_bytes`, says that this makes no difference: the
encoding of a text is read as the text is, and in bytes that are no encoding of a text the first
line with a fault is told, unless reading has failed on a line above it.

The byte of the line feed is part of no other character, so the lines of the bytes are the encodings
of the lines of the text (`cutAfter_encode`).
-/

namespace ScriptLexer

namespace Utf8

/-! ## The lines of the bytes -/

lemma cutAfter_encodeChar_append {c : Char} (hc : c ≠ '\n') (bytes : List UInt8) :
    cutAfter 0x0A (String.utf8EncodeChar c ++ bytes) =
      (String.utf8EncodeChar c ++ firstPart 0x0A bytes) :: laterParts 0x0A bytes :=
  cutAfter_append (lineFeed_notMem_encodeChar hc) (by simp)

/-- The lines of the bytes are the encodings of the lines of the text. -/
lemma cutAfter_encode (t : Text) : cutAfter 0x0A (encode t) = (cutAfter '\n' t).map encode := by
  induction t with
  | nil => rfl
  | cons c t ih =>
    by_cases hc : c = '\n'
    · subst hc
      rw [encode_cons, encodeChar_lineFeed, List.singleton_append, cutAfter, if_pos rfl, ih,
        cutAfter, if_pos rfl]
      rfl
    · rw [encode_cons, cutAfter_encodeChar_append hc, firstPart, laterParts, ih, cutAfter,
        if_neg hc]
      cases cutAfter '\n' t with
      | nil => simp
      | cons line lines => rfl

/-- A text of which the encoding ends with the byte of the line feed ends with a line feed. -/
lemma ends_of_encode {t : Text} (h : Ends 0x0A (encode t)) : Ends '\n' t := by
  rcases List.eq_nil_or_concat t with rfl | ⟨t', c, rfl⟩
  · exact Or.inl rfl
  · refine Or.inr ⟨t', ?_⟩
    rw [List.concat_eq_append, encode_append, encode_cons, encode_nil, List.append_nil] at h
    rcases h with hnil | ⟨r, hr⟩
    · simp at hnil
    · have hlast : (encode t' ++ String.utf8EncodeChar c).getLast? = some 0x0A := by
        rw [hr, List.getLast?_concat]
      rw [List.getLast?_append_of_ne_nil _ (by simp)] at hlast
      have hmem : 0x0A ∈ String.utf8EncodeChar c := List.mem_of_getLast? hlast
      have hc : c = '\n' := not_not.1 fun hc => lineFeed_notMem_encodeChar hc hmem
      rw [hc, List.concat_eq_append]

lemma ends_encode {t : Text} (h : Ends '\n' t) : Ends 0x0A (encode t) := by
  rcases h with rfl | ⟨r, rfl⟩
  · exact Or.inl rfl
  · exact Or.inr ⟨encode r, encode_append r ['\n']⟩

/-- Bytes that encode no text are whole lines that do, and then a line that does not. -/
lemma exists_first_faulty_line {bytes : List UInt8} (h : ¬ Valid bytes) :
    ∃ t rest fault, bytes = encode t ++ rest ∧ Ends '\n' t ∧
      decode (firstPart 0x0A rest) = .error fault := by
  induction hsize : bytes.length using Nat.strong_induction_on generalizing bytes with
  | _ size ih =>
    subst hsize
    by_cases hmem : 0x0A ∈ bytes
    · obtain ⟨line, rest, rfl, hline⟩ := List.eq_append_cons_of_mem hmem
      by_cases hvalid : Valid (line ++ [0x0A])
      · -- the first line is one of the text, and the others are looked at
        obtain ⟨u, hu⟩ := hvalid
        have hrest : ¬ Valid rest := by
          intro hrest
          have hall := Valid.append ⟨u, hu⟩ hrest
          rw [List.append_assoc, List.singleton_append] at hall
          exact h hall
        have hshort : rest.length < (line ++ 0x0A :: rest).length := by simp; omega
        obtain ⟨t, rest', fault, rfl, hends, hfault⟩ := ih rest.length hshort hrest rfl
        have hu' : Ends '\n' u := ends_of_encode (Or.inr ⟨line, hu⟩)
        refine ⟨u ++ t, rest', fault, ?_, hu'.append hends, hfault⟩
        rw [encode_append, hu]
        simp
      · obtain ⟨fault, hfault⟩ := exists_decode_eq_error_iff.2 hvalid
        refine ⟨[], line ++ 0x0A :: rest, fault, rfl, Or.inl rfl, ?_⟩
        rwa [firstPart_append_mark hline]
    · obtain ⟨fault, hfault⟩ := exists_decode_eq_error_iff.2 h
      refine ⟨[], bytes, fault, rfl, Or.inl rfl, ?_⟩
      rwa [firstPart_of_notMem hmem]

end Utf8

namespace Cursor

variable {r : Rules} {marked : Bool} {c : Cursor}

/-! ## Readings of the lines -/

/-- The encodings of lines are read as the lines are. -/
lemma exhaust_encode (lines : List Text) :
    exhaust r marked c (lines.map fun line => .bytes (Utf8.encode line)) =
      exhaust r marked c (lines.map .text) := by
  induction lines generalizing c with
  | nil => rfl
  | cons line lines ih =>
    have hempty : (Chunk.bytes (Utf8.encode line)).isEmpty = (Chunk.text line).isEmpty := by
      rw [Bool.eq_iff_iff]
      simp [Chunk.isEmpty]
    simp only [List.map_cons, exhaust, hempty, Chunk.decode, Utf8.decode_encode, ih]

/-- An error in a text has its place on one of the lines. -/
lemma location_of_exhaust_error {lines : List Text} {e : LexicalError}
    (hlines : ∀ line ∈ lines, line ≠ []) (hstream : r.streaming = true)
    (hrest : drain r c = .ok ([], c)) (h : exhaust r marked c (lines.map .text) = .error e) :
    e.fault.kind ≠ .invalidEncoding ∧ e.fault.kind ≠ .unterminatedComment ∧
      ∃ k : Nat, c.lineNumber < k ∧ k ≤ c.lineNumber + lines.length ∧
        e.location = some ⟨r.file, k⟩ := by
  obtain ⟨before, chunk, behind, ts, last, hchunks, hbefore, hfault⟩ :=
    exists_chunk_of_exhaust_error hrest h
  obtain ⟨before', lines', rfl, rfl, hlines'⟩ := List.map_eq_append_iff.1 hchunks
  obtain ⟨line, behind', rfl, rfl, rfl⟩ := List.map_eq_cons_iff.1 hlines'
  rcases hfault with ⟨fault, hdecode, -⟩ | ⟨text, -, hdrain⟩
  · cases hdecode
  · have hfails := drain_eq_error_iff.1 hdrain
    have hnonempty : ∀ chunk ∈ before'.map Chunk.text, chunk.isEmpty = false := by
      intro chunk hchunk
      obtain ⟨line', hmem, rfl⟩ := List.mem_map.1 hchunk
      simpa [Chunk.isEmpty] using hlines line' (List.mem_append_left _ hmem)
    have hnumber := lineNumber_of_exhaust_eq_ok hnonempty hbefore
    rw [List.length_map] at hnumber
    refine ⟨hfails.kind_ne.1, hfails.kind_ne.2, last.lineNumber + 1, by omega, ?_, ?_⟩
    · rw [List.length_append, List.length_cons]
      omega
    · rw [hfails.location_eq, location_of_streaming hstream]
      rfl

lemma isEmpty_of_mem_bytes (bytes : List UInt8) :
    ∀ chunk ∈ (cutAfter 0x0A bytes).map Chunk.bytes, chunk.isEmpty = false := by
  intro chunk hchunk
  obtain ⟨line, hmem, rfl⟩ := List.mem_map.1 hchunk
  simpa [Chunk.isEmpty] using ne_nil_of_mem_cutAfter hmem

lemma isEmpty_firstPart {bytes : List UInt8} (h : bytes ≠ []) :
    (Chunk.bytes (firstPart 0x0A bytes)).isEmpty = false := by
  have hmem : firstPart 0x0A bytes ∈ cutAfter 0x0A bytes := by
    rw [cutAfter_of_ne_nil h]
    exact List.mem_cons_self
  exact isEmpty_of_mem_bytes bytes _ (List.mem_map_of_mem hmem)

/-- Behind the encoding of whole lines a line with a fault is told. -/
lemma exhaust_of_faulty_line {t : Text} {rest : List UInt8} {fault : Utf8.Fault}
    (hends : Ends '\n' t) (hfault : Utf8.decode (firstPart 0x0A rest) = .error fault) :
    exhaust r marked {} ((cutAfter 0x0A (Utf8.encode t ++ rest)).map .bytes) =
      (exhaust r marked {} ((cutAfter '\n' t).map .text)).andThen fun _ =>
        .error ⟨.encoding fault, some ⟨r.file, t.count '\n' + 1⟩⟩ := by
  have hrest : rest ≠ [] := by
    rintro rfl
    simp [firstPart, cutAfter, Utf8.decode] at hfault
  rw [cutAfter_append_of_ends (Utf8.ends_encode hends), List.map_append,
    exhaust_append (isEmpty_of_mem_bytes _), Utf8.cutAfter_encode, List.map_map]
  change (exhaust r marked {} ((cutAfter '\n' t).map fun line => .bytes (Utf8.encode line))).andThen
    _ = _
  rw [exhaust_encode]
  refine Reading.andThen_congr fun ts last hread => ?_
  have hnumber := lineNumber_of_exhaust_eq_ok (isEmpty_of_mem_lines t) hread
  rw [List.length_map, length_cutAfter_of_ends hends, Nat.zero_add] at hnumber
  rw [cutAfter_of_ne_nil hrest, List.map_cons,
    exhaust_cons_of_decode_error (drain_of_exhaust_eq_ok hread) (isEmpty_firstPart hrest) hfault,
    hnumber]

end Cursor

/-! ## The two runs -/

section

variable (file : Text) (mark : Mark) (options : Options)

/-- The tokens of a stream that is declared to begin with a mark. -/
def tokenizeMarked (stream : Stream) : Except Failure (List Token) :=
  (tokenizeStream { file, stream := some stream, mark := .mark mark, options }).result

variable {mark}

/-- With a mark that is accepted, an open stream is read from the start. -/
lemma tokenizeMarked_eq (hmark : mark.isSupported = true) {stream : Stream}
    (hopen : stream.isClosed = false) :
    tokenizeMarked file mark options stream =
      ((({} : Cursor).exhaust (textRules file options) (mark = .utf8) stream.chunks).finish
        (textRules file options)).mapError .lexical := by
  have hdeclared : decide (Mark.Declared.mark mark = .mark .utf8) = decide (mark = .utf8) := by
    simp
  have hrun := tokenizeStream_eq
    { file, stream := some stream, mark := .mark mark, options } rfl hopen (if_pos hmark)
  dsimp only at hrun
  rw [hdeclared] at hrun
  exact hrun

/-- The encoding of a text is read as the text is. -/
lemma tokenizeMarked_encode (hmark : mark.isSupported = true) (t : Text) :
    tokenizeMarked file mark options (.ofBytes (Utf8.encode t)) =
      tokenizeMarked file mark options (.ofText t) := by
  rw [tokenizeMarked_eq file options hmark rfl, tokenizeMarked_eq file options hmark rfl]
  simp only [Stream.ofBytes, Stream.ofText, Utf8.cutAfter_encode, List.map_map]
  rw [← Cursor.exhaust_encode]
  rfl

/-- **Bytes are read as the text that they encode.**  Let the declared mark be none or that of
UTF-8. The encoding of a text gives the same tokens, or the same error, as the text.  Bytes that
encode no text never give tokens.  They are the encoding of some whole lines `t`, and then a line
with a fault in its encoding.  This fault is told, with the number of the line, unless reading has
failed on a line of `t`: then this error is told, as it is if only `t` is read.  (That a comment is
open at the end of `t` is no such error.) -/
theorem tokenizeStream_bytes (hmark : mark.isSupported = true) :
    (∀ t : Text, tokenizeMarked file mark options (.ofBytes (Utf8.encode t)) =
      tokenizeMarked file mark options (.ofText t)) ∧
    ∀ bytes : List UInt8, ¬ Utf8.Valid bytes →
      ∃ t rest fault, bytes = Utf8.encode t ++ rest ∧ Ends '\n' t ∧
        Utf8.decode (firstPart 0x0A rest) = .error fault ∧
        ((tokenizeMarked file mark options (.ofBytes bytes) =
            .error (.lexical ⟨.encoding fault,
              some ⟨(textRules file options).file, t.count '\n' + 1⟩⟩) ∧
          ∀ e, tokenizeMarked file mark options (.ofText t) = .error (.lexical e) →
            e.fault.kind = .unterminatedComment) ∨
        ∃ e, ∃ k : Nat, tokenizeMarked file mark options (.ofBytes bytes) = .error (.lexical e) ∧
          tokenizeMarked file mark options (.ofText t) = .error (.lexical e) ∧
          e.fault.kind ≠ .invalidEncoding ∧ e.fault.kind ≠ .unterminatedComment ∧
          e.location = some ⟨(textRules file options).file, k⟩ ∧ 1 ≤ k ∧ k ≤ t.count '\n') := by
  refine ⟨tokenizeMarked_encode file options hmark, ?_⟩
  intro bytes hinvalid
  obtain ⟨t, rest, fault, rfl, hends, hfault⟩ := Utf8.exists_first_faulty_line hinvalid
  refine ⟨t, rest, fault, rfl, hends, hfault, ?_⟩
  rw [tokenizeMarked_eq file options hmark rfl, tokenizeMarked_eq file options hmark rfl]
  simp only [Stream.ofBytes, Stream.ofText, Cursor.exhaust_of_faulty_line hends hfault]
  cases htext : Cursor.exhaust (textRules file options) (decide (mark = .utf8)) {}
      ((cutAfter '\n' t).map .text) with
  | ok p =>
    left
    refine ⟨rfl, fun e he => ?_⟩
    cases hfinish : Reading.finish (textRules file options) (.ok p) with
    | error e' =>
      rw [hfinish] at he
      cases he
      exact (Reading.finish_ok_eq_error hfinish).2.1
    | ok us =>
      rw [hfinish] at he
      cases he
  | error e =>
    right
    obtain ⟨hkind, hkind', k, hlow, hhigh, hplace⟩ :=
      Cursor.location_of_exhaust_error (fun line => ne_nil_of_mem_cutAfter) rfl
        (Cursor.drain_of_nil rfl) htext
    rw [Nat.zero_add, length_cutAfter_of_ends hends] at hhigh
    exact ⟨e, k, rfl, rfl, hkind, hkind', hplace, hlow, hhigh⟩

end

/-- A text that begins with the mark, and bytes whose second line ends inside a character. -/
theorem tokenizeStream_bytes_second_line :
    Mark.utf8.isSupported = true ∧
    tokenizeMarked [] .utf8 {} (.ofBytes (Utf8.encode "\uFEFF'é'\n".toList)) =
      tokenizeMarked [] .utf8 {} (.ofText "\uFEFF'é'\n".toList) ∧
    ¬ Utf8.Valid [0x78, 0x0A, 0xC3, 0x0A] ∧
    ∃ t rest, [0x78, 0x0A, 0xC3, 0x0A] = Utf8.encode t ++ rest ∧ t.count '\n' = 1 ∧
      Utf8.decode (firstPart 0x0A rest) = .error .continuationByte ∧
      tokenizeMarked [] .utf8 {} (.ofBytes [0x78, 0x0A, 0xC3, 0x0A]) =
        .error (.lexical ⟨.encoding .continuationByte, some ⟨namelessSource, 2⟩⟩) := by
  have hinvalid : ¬ Utf8.Valid [0x78, 0x0A, 0xC3, 0x0A] :=
    Utf8.exists_decode_eq_error_iff.1 ⟨.continuationByte, by decide +kernel⟩
  have hresult : tokenizeMarked [] .utf8 {} (.ofBytes [0x78, 0x0A, 0xC3, 0x0A]) =
      .error (.lexical ⟨.encoding .continuationByte, some ⟨namelessSource, 2⟩⟩) := by
    decide +kernel
  have hmark : Mark.utf8.isSupported = true := rfl
  obtain ⟨htexts, hbytes⟩ := tokenizeStream_bytes [] {} hmark
  refine ⟨hmark, htexts _, hinvalid, ?_⟩
  obtain ⟨t, rest, fault, hsplit, -, hfault, ⟨hrun, -⟩ | ⟨e, k, hrun, -, hkind, -⟩⟩ :=
    hbytes _ hinvalid
  · have hsame := hresult.symm.trans hrun
    simp only [Except.error.injEq, Failure.lexical.injEq, LexicalError.mk.injEq,
      Fault.encoding.injEq, Option.some.injEq, Location.mk.injEq] at hsame
    obtain ⟨rfl, -, hline⟩ := hsame
    exact ⟨t, rest, hsplit, by omega, hfault, hresult⟩
  · have hsame := hresult.symm.trans hrun
    cases hsame
    exact absurd rfl hkind

end ScriptLexer
