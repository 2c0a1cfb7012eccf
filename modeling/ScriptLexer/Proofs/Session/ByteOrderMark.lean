import ScriptLexer.Proofs.Cursor.Shift
import ScriptLexer.Proofs.Session.Encoding

/-!
# Byte order marks and the tokens behind them

A file may begin with the mark of UTF-8, which is passed over twice: its bytes when the file is
opened, and its characters when the first line is read, the latter only if there was a mark to pass
over at first.  So it can stand there any number of times.  The main result, `tokenizeFile_mark`,
says that one more of it never changes the result.  A file with the mark of another encoding is
refused before a line of it is read.
-/

namespace ScriptLexer

namespace Mark

/-- The bytes of the mark of UTF-8. -/
def utf8Signature : List UInt8 := [0xEF, 0xBB, 0xBF]

/-- The bytes begin with the mark of UTF-16 or UTF-32, in some byte order. -/
def Foreign (bytes : List UInt8) : Prop :=
  [0xFF, 0xFE] <+: bytes ∨ [0xFE, 0xFF] <+: bytes ∨ [0x00, 0x00, 0xFE, 0xFF] <+: bytes

instance : DecidablePred Foreign := fun bytes =>
  inferInstanceAs (Decidable ([0xFF, 0xFE] <+: bytes ∨ [0xFE, 0xFF] <+: bytes ∨
    [0x00, 0x00, 0xFE, 0xFF] <+: bytes))

/-! ## The mark that is found -/

lemma encodeChar_markCharacter : String.utf8EncodeChar markCharacter = utf8Signature := rfl

/-- The mark that is found is one of which the bytes stand there; none is found if none stands
there. -/
lemma detect_cases (bytes : List UInt8) :
    (detect bytes = (.none, 0) ∧ ∀ entry ∈ signatures, ¬ entry.1 <+: bytes) ∨
      ∃ entry ∈ signatures, entry.1 <+: bytes ∧ detect bytes = (entry.2, entry.1.length) := by
  unfold detect
  split
  · rename_i signature mark hfind
    refine Or.inr ⟨(signature, mark), List.mem_of_find?_eq_some hfind, ?_, rfl⟩
    have hfound := List.find?_some hfind
    exact List.isPrefixOf_iff_prefix.1 hfound
  · rename_i hfind
    refine Or.inl ⟨rfl, fun entry hentry hprefix => ?_⟩
    exact List.find?_eq_none.1 hfind entry hentry (List.isPrefixOf_iff_prefix.2 hprefix)

lemma detect_utf8 (bytes : List UInt8) : detect (utf8Signature ++ bytes) = (.utf8, 3) := rfl

lemma not_foreign_utf8 (bytes : List UInt8) : ¬ Foreign (utf8Signature ++ bytes) := by
  rintro (h | h | h)
  all_goals
    obtain ⟨hbyte, -⟩ := List.cons_prefix_cons.1 h
    exact absurd hbyte (by decide)

lemma detect_of_not_foreign {bytes : List UInt8} (h : ¬ Foreign bytes)
    (h' : ¬ utf8Signature <+: bytes) : detect bytes = (.none, 0) := by
  rcases detect_cases bytes with ⟨hdetect, -⟩ | ⟨⟨signature, mark⟩, hentry, hprefix, -⟩
  · exact hdetect
  · simp only [signatures, List.mem_cons, List.not_mem_nil, or_false, Prod.mk.injEq] at hentry
    rcases hentry with ⟨rfl, -⟩ | ⟨rfl, -⟩ | ⟨rfl, -⟩ | ⟨rfl, -⟩ | ⟨rfl, -⟩
    · exact absurd (Or.inl ((List.prefix_append [0xFF, 0xFE] [0x00, 0x00]).trans hprefix)) h
    · exact absurd (Or.inr (Or.inr hprefix)) h
    · exact absurd hprefix h'
    · exact absurd (Or.inl hprefix) h
    · exact absurd (Or.inr (Or.inl hprefix)) h

/-- A mark of another encoding is found, and it is not supported. -/
lemma detect_of_foreign {bytes : List UInt8} (h : Foreign bytes) :
    ∃ entry ∈ signatures, entry.1 <+: bytes ∧ detect bytes = (entry.2, entry.1.length) ∧
      entry.2.isSupported = false := by
  rcases detect_cases bytes with ⟨-, hnone⟩ | ⟨⟨signature, mark⟩, hentry, hprefix, hdetect⟩
  · rcases h with h | h | h
    · exact absurd h (hnone ([0xFF, 0xFE], .utf16le) (by decide))
    · exact absurd h (hnone ([0xFE, 0xFF], .utf16be) (by decide))
    · exact absurd h (hnone ([0x00, 0x00, 0xFE, 0xFF], .utf32be) (by decide))
  · refine ⟨(signature, mark), hentry, hprefix, hdetect, ?_⟩
    simp only [signatures, List.mem_cons, List.not_mem_nil, or_false, Prod.mk.injEq] at hentry
    rcases hentry with ⟨-, rfl⟩ | ⟨-, rfl⟩ | ⟨rfl, -⟩ | ⟨-, rfl⟩ | ⟨-, rfl⟩
    · rfl
    · rfl
    · obtain ⟨rest, rfl⟩ := hprefix
      exact absurd h (not_foreign_utf8 rest)
    · rfl
    · rfl

end Mark

namespace Cursor

variable {r : Rules} {marked : Bool} {c : Cursor}

/-! ## The first line -/

/-- Behind the first line it makes no difference whether there was a mark. -/
lemma exhaust_of_pos (hline : 1 ≤ c.lineNumber) (marked' : Bool) (chunks : List Chunk) :
    exhaust r marked c chunks = exhaust r marked' c chunks := by
  induction chunks generalizing c with
  | nil => rfl
  | cons chunk chunks ih =>
    rw [exhaust, exhaust]
    refine Reading.andThen_congr fun ts last hdrain => ?_
    have hnumber : 1 ≤ last.lineNumber := by
      rwa [(drain_eq_ok_iff.1 hdrain).lineNumber_eq]
    split_ifs
    · rfl
    · cases chunk.decode with
      | error fault => rfl
      | ok line =>
        simp only [unmarked_of_pos hnumber]
        exact ih (Nat.le_add_left 1 _)

/-- The lines of some bytes are the first one, on which marks count, and the others. -/
lemma exhaust_bytes {bytes : List UInt8} (hne : bytes ≠ []) :
    exhaust r marked {} ((cutAfter 0x0A bytes).map .bytes) =
      match Utf8.decode (firstPart 0x0A bytes) with
      | .error fault => .error ⟨.encoding fault, some ⟨r.file, 1⟩⟩
      | .ok line =>
        exhaust r false (({} : Cursor).start (({} : Cursor).unmarked marked line))
          ((laterParts 0x0A bytes).map .bytes) := by
  have hline := isEmpty_firstPart hne
  have hrest : drain r {} = .ok ([], {}) := drain_of_nil rfl
  rw [cutAfter_of_ne_nil hne, List.map_cons]
  cases hdecode : Utf8.decode (firstPart 0x0A bytes) with
  | error fault => exact exhaust_cons_of_decode_error hrest hline hdecode _
  | ok line =>
    rw [exhaust_cons_of_decode hrest hline hdecode, exhaust_andThen]
    exact exhaust_of_pos (Nat.le_refl 1) false _

lemma unmarked_of_head? {line : Text} (h : line.head? ≠ some markCharacter) (marked : Bool) :
    c.unmarked marked line = line := by
  unfold unmarked
  split_ifs
  · cases line with
    | nil => rfl
    | cons a line =>
      have ha : a ≠ markCharacter := by simpa using h
      rw [List.dropWhile_cons_of_neg (by simpa using ha)]
  · rfl

/-- In front of the first line one more mark is passed over. -/
lemma unmarked_markCharacter (line : Text) :
    ({} : Cursor).unmarked true (markCharacter :: line) = ({} : Cursor).unmarked true line := rfl

/-- Without the mark at the start nothing is passed over. -/
lemma exhaust_of_not_prefix {bytes : List UInt8} (h : ¬ Mark.utf8Signature <+: bytes) :
    exhaust r true {} ((cutAfter 0x0A bytes).map .bytes) =
      exhaust r false {} ((cutAfter 0x0A bytes).map .bytes) := by
  by_cases hne : bytes = []
  · subst hne
    rfl
  · rw [exhaust_bytes hne, exhaust_bytes hne]
    cases hdecode : Utf8.decode (firstPart 0x0A bytes) with
    | error fault => rfl
    | ok line =>
      have hhead : line.head? ≠ some markCharacter := by
        intro hhead
        obtain ⟨t, rfl⟩ := List.head?_eq_some_iff.1 hhead
        have hfirst := Utf8.encode_of_decode hdecode
        rw [Utf8.encode_cons, Mark.encodeChar_markCharacter] at hfirst
        exact h ((hfirst ▸ List.prefix_append _ _).trans (firstPart_isPrefix 0x0A bytes))
      simp only [unmarked_of_head? hhead]

/-- One more mark in front of some bytes that are read as marked changes nothing. -/
lemma exhaust_utf8Signature {bytes : List UInt8} (hne : bytes ≠ []) :
    exhaust r true {} ((cutAfter 0x0A (Mark.utf8Signature ++ bytes)).map .bytes) =
      exhaust r true {} ((cutAfter 0x0A bytes).map .bytes) := by
  have hline : 0x0A ∉ Mark.utf8Signature := by decide
  rw [exhaust_bytes (by simp [hne]), exhaust_bytes hne, firstPart_append hline,
    laterParts_append hline, ← Mark.encodeChar_markCharacter, Utf8.decode_encodeChar_append]
  cases Utf8.decode (firstPart 0x0A bytes) with
  | error fault => rfl
  | ok line => simp only [Except.map, unmarked_markCharacter]

/-- A source that is nothing but a mark ends on its first line, as an empty one does. -/
lemma finish_exhaust_utf8Signature :
    (exhaust r true {} ((cutAfter 0x0A Mark.utf8Signature).map .bytes)).finish r =
      (exhaust r true {} []).finish r := by
  have hdecode : Utf8.decode (firstPart 0x0A Mark.utf8Signature) = .ok [markCharacter] := by
    decide +kernel
  rw [exhaust_bytes (by decide), hdecode]
  have hlater : laterParts 0x0A Mark.utf8Signature = [] := rfl
  simp only [hlater, List.map_nil, exhaust_nil, unmarked_markCharacter]
  rw [drain_of_nil rfl, drain_of_nil rfl]
  rfl

end Cursor

/-! ## Files -/

section

variable {files : FileSystem} {path : Text} {bytes : List UInt8}

/-- A file whose mark is accepted is read as a stream of what stands behind the mark. -/
lemma tokenizeFile_of_supported (options : Options) (hfile : files path = .ok bytes)
    (hmark : (Mark.detect bytes).1.isSupported = true) :
    (tokenizeFile files path options).result =
      tokenizeMarked path (Mark.detect bytes).1 options
        (.ofFile (bytes.drop (Mark.detect bytes).2)) := by
  have hrefusal : (Mark.Declared.mark (Mark.detect bytes).1).refusal? = none := if_pos hmark
  let input : Input :=
    { stream := .ofFile (bytes.drop (Mark.detect bytes).2), owned := true,
      marked := (Mark.detect bytes).1 = .utf8 }
  obtain ⟨s, hresult, hinput, hrules, hcursor⟩ :
      ∃ s, (Session.openFile files path options).result = .ok s ∧ s.input = some input ∧
        s.rules = textRules path options ∧ s.cursor = {} := by
    simp only [Session.openFile, OpenedFile.open, hfile, Session.create, hrefusal,
      Mark.Declared.mark.injEq]
    exact ⟨_, rfl, rfl, rfl, rfl⟩
  have hcollect := Session.collect_eq_exhaust hinput rfl
  rw [hrules, hcursor] at hcollect
  rw [tokenizeMarked_eq path options hmark rfl]
  unfold tokenizeFile
  simp only [hresult]
  exact (Session.tokenize_fst s).trans hcollect

/-- A file whose mark is refused is closed, and none of its lines has been read. -/
lemma tokenizeFile_of_unsupported (options : Options) (hfile : files path = .ok bytes)
    (hmark : (Mark.detect bytes).1.isSupported = false) :
    (tokenizeFile files path options).result =
        .error (.lexical ⟨.mark .unsupported, some ⟨(textRules path options).file, 1⟩⟩) ∧
      (tokenizeFile files path options).stream =
        some (Stream.ofFile (bytes.drop (Mark.detect bytes).2)).close := by
  have hrefusal : (Mark.Declared.mark (Mark.detect bytes).1).refusal? = some .unsupported :=
    if_neg (Bool.eq_false_iff.1 hmark)
  simp only [tokenizeFile, Session.openFile, OpenedFile.open, hfile, Session.create, hrefusal]
  exact ⟨rfl, trivial⟩

/-- Behind the mark of UTF-8 the lines are read as marked. -/
lemma tokenizeFile_utf8Signature {data : List UInt8} (options : Options)
    (hfile : files path = .ok (Mark.utf8Signature ++ data)) :
    (tokenizeFile files path options).result =
      ((({} : Cursor).exhaust (textRules path options) true
        ((cutAfter 0x0A data).map .bytes)).finish (textRules path options)).mapError .lexical := by
  rw [tokenizeFile_of_supported options hfile rfl, Mark.detect_utf8,
    tokenizeMarked_eq path options rfl rfl]
  rfl

end

/-- **A byte order mark changes nothing.**  Let a file hold the bytes `data`.  If these do not begin
with the mark of another encoding, a file of the same path that holds `data` behind the mark of
UTF-8 has the same result.  If they do, the file is refused on its first line, and all lines behind
this mark are unread in its stream, which is closed. -/
theorem tokenizeFile_mark {files : FileSystem} {path : Text} {data : List UInt8} (options : Options)
    (hfile : files path = .ok data) :
    (¬ Mark.Foreign data → ∀ marked : FileSystem, marked path = .ok (Mark.utf8Signature ++ data) →
      (tokenizeFile marked path options).result = (tokenizeFile files path options).result) ∧
    (Mark.Foreign data →
      (tokenizeFile files path options).result =
        .error (.lexical ⟨.mark .unsupported, some ⟨(textRules path options).file, 1⟩⟩) ∧
      ∃ entry ∈ Mark.signatures, entry.1 <+: data ∧
        (tokenizeFile files path options).stream =
          some (Stream.ofFile (data.drop entry.1.length)).close) := by
  constructor
  · intro hforeign marked hmarked
    rw [tokenizeFile_utf8Signature options hmarked]
    by_cases hprefix : Mark.utf8Signature <+: data
    · -- the mark stands there a second time
      obtain ⟨rest, rfl⟩ := hprefix
      rw [tokenizeFile_utf8Signature options hfile]
      by_cases hne : rest = []
      · subst hne
        rw [List.append_nil, Cursor.finish_exhaust_utf8Signature]
        rfl
      · rw [Cursor.exhaust_utf8Signature hne]
    · have hdetect := Mark.detect_of_not_foreign hforeign hprefix
      have hmark : (Mark.detect data).1.isSupported = true := by
        rw [hdetect]
        rfl
      rw [tokenizeFile_of_supported options hfile hmark, hdetect,
        tokenizeMarked_eq path options rfl rfl, Cursor.exhaust_of_not_prefix hprefix]
      rfl
  · intro hforeign
    obtain ⟨entry, hentry, hprefix, hdetect, hmark⟩ := Mark.detect_of_foreign hforeign
    have hunsupported : (Mark.detect data).1.isSupported = false := by
      rw [hdetect]
      exact hmark
    obtain ⟨hresult, hstream⟩ := tokenizeFile_of_unsupported options hfile hunsupported
    rw [hdetect] at hstream
    exact ⟨hresult, entry, hentry, hprefix, hstream⟩

/-- A file that is a name behind one, two or three marks, and one in UTF-32. -/
theorem tokenizeFile_mark_thrice :
    ∃ (x e : Token) (files : Nat → FileSystem) (other : FileSystem),
      (∀ n, files n "a".toList = .ok ((List.replicate n Mark.utf8Signature).flatten ++ [0x78])) ∧
      other "a".toList = .ok [0xFF, 0xFE, 0x00, 0x00, 0x78, 0x00, 0x00, 0x00] ∧
      ¬ Mark.Foreign (Mark.utf8Signature ++ [0x78]) ∧
      (tokenizeFile (files 1) "a".toList {}).result = .ok [x, e] ∧
      (tokenizeFile (files 2) "a".toList {}).result = .ok [x, e] ∧
      (tokenizeFile (files 3) "a".toList {}).result = .ok [x, e] ∧
      Mark.Foreign [0xFF, 0xFE, 0x00, 0x00, 0x78, 0x00, 0x00, 0x00] ∧
      (tokenizeFile other "a".toList {}).result =
        .error (.lexical ⟨.mark .unsupported, some ⟨"a".toList, 1⟩⟩) := by
  let x : Token :=
    { kind := .identifier, text := "x".toList, location := ⟨"a".toList, 1⟩, startsLine := true }
  let e : Token :=
    { kind := .endOfFile, text := endText, location := ⟨"a".toList, 1⟩, startsLine := true }
  let files (n : Nat) : FileSystem := fun _ =>
    .ok ((List.replicate n Mark.utf8Signature).flatten ++ [0x78])
  let other : FileSystem := fun _ => .ok [0xFF, 0xFE, 0x00, 0x00, 0x78, 0x00, 0x00, 0x00]
  have hfile (n : Nat) : files n "a".toList =
      .ok ((List.replicate n Mark.utf8Signature).flatten ++ [0x78]) := rfl
  have hnext (n : Nat) : files (n + 1) "a".toList =
      .ok (Mark.utf8Signature ++ ((List.replicate n Mark.utf8Signature).flatten ++ [0x78])) := rfl
  have hother : other "a".toList = .ok [0xFF, 0xFE, 0x00, 0x00, 0x78, 0x00, 0x00, 0x00] := rfl
  have hone : (tokenizeFile (files 1) "a".toList {}).result = .ok [x, e] := by decide +kernel
  have htwo := (tokenizeFile_mark {} (hfile 1)).1 (by decide) (files 2) (hnext 1)
  have hthree := (tokenizeFile_mark {} (hfile 2)).1 (by decide) (files 3) (hnext 2)
  have hwide := (tokenizeFile_mark {} hother).2 (by decide)
  exact ⟨x, e, files, other, hfile, hother, by decide, hone, htwo.trans hone,
    (hthree.trans htwo).trans hone, by decide, hwide.1⟩

end ScriptLexer
