import ScriptLexer.Proofs.Lexeme.Name
import ScriptLexer.Proofs.Lexeme.Recognizer
import ScriptLexer.Proofs.Table.Lookup

/-!
# Words at the start of a line

The leading name of a line is recognized as it stands, as the keyword that is spelled so or else as an
identifier, unless it is kept for internal use.

The spellings of keywords are names, but nothing keeps a table from spelling a keyword with a name
that may not be used.  Such a keyword is never recognized (`Word.recognize_keyword`).
-/

namespace ScriptLexer

namespace Word

variable {table : Table} {line : Text}

lemma isReserved_iff {name : Text} :
    isReserved name = true ↔ "__".toList <+: name ∧ name ≠ "__STACK__".toList := by
  unfold isReserved
  rw [Bool.and_eq_true, List.isPrefixOf_iff_prefix, bne_iff_ne]
  rfl

lemma kind_eq_keyword_iff {name : Text} {k : Keyword} :
    kind table name = .keyword k ↔ table.spelling (.keyword k) = name := by
  rw [← Table.keyword?_eq_some_iff]
  unfold kind
  split
  · rename_i j hkeyword
    simp [hkeyword]
  · rename_i hkeyword
    simp [hkeyword]

lemma kind_eq_identifier_iff {name : Text} :
    kind table name = .identifier ↔ ∀ k : Keyword, table.spelling (.keyword k) ≠ name := by
  rw [← Table.keyword?_eq_none_iff]
  unfold kind
  split
  · rename_i j hkeyword
    simp [hkeyword]
  · rename_i hkeyword
    simp [hkeyword]

lemma recognize_of_isReserved (h : isReserved (Name.leading line) = true) :
    recognize table line = .error (.reservedName (Name.leading line)) := by
  unfold recognize
  rw [readSpelled?_eq, read?]
  simp only [h, if_true]

lemma recognize_of_not_isReserved (h : ¬ isReserved (Name.leading line) = true) :
    recognize table line =
      .ok { kind := kind table (Name.leading line), text := Name.leading line } := by
  unfold recognize
  rw [readSpelled?_eq, read?]
  simp only [h, if_false, Bool.false_eq_true]

/-- Only a name that is kept for internal use is refused. -/
lemma recognize_eq_error_iff {fault : Fault} :
    recognize table line = .error fault ↔
      fault = .reservedName (Name.leading line) ∧ isReserved (Name.leading line) = true := by
  by_cases hreserved : isReserved (Name.leading line) = true
  · rw [recognize_of_isReserved hreserved]
    simp [hreserved, eq_comm]
  · rw [recognize_of_not_isReserved hreserved]
    simp [hreserved]

/-! ## Keywords -/

/-- **Which keywords are recognized.**  Let any accepted choice of spellings be given, and a line that
begins with the text of a keyword and does not go on with a name character.  The keyword is
recognized, with this text, exactly if the text is no name that is kept for internal use; otherwise
it is refused as such a name. -/
theorem recognize_keyword {s : Spellings} {table : Table} (h : Table.ofSpellings s = .ok table)
    (k : Keyword) {rest : Text} (hrest : ∀ c, rest.head? = some c → Name.isPart c = false) :
    (recognize table (s.text (.keyword k) ++ rest) =
        .ok { kind := .keyword k, text := s.text (.keyword k) } ↔
      ("__".toList <+: s.text (.keyword k) → s.text (.keyword k) = "__STACK__".toList)) ∧
    (recognize table (s.text (.keyword k) ++ rest) =
        .error (.reservedName (s.text (.keyword k))) ↔
      "__".toList <+: s.text (.keyword k) ∧ s.text (.keyword k) ≠ "__STACK__".toList) := by
  have hspelling := Table.spelling_of_ofSpellings h (.keyword k)
  have hvalid : Name.isValid (s.text (.keyword k)) = true := by
    rw [← hspelling]
    exact table.isValid_keyword k
  have hleading := Name.leading_append_of_isValid hvalid hrest
  by_cases hreserved : isReserved (s.text (.keyword k)) = true
  · have hname := isReserved_iff.1 hreserved
    rw [recognize_of_isReserved (by rwa [hleading]), hleading]
    exact ⟨⟨nofun, fun hallowed => absurd (hallowed hname.1) hname.2⟩, fun _ => hname, fun _ => rfl⟩
  · have hname := mt isReserved_iff.2 hreserved
    rw [recognize_of_not_isReserved (by rwa [hleading]), hleading, kind_eq_keyword_iff.2 hspelling]
    exact ⟨⟨fun _ hstart => not_not.1 fun hne => hname ⟨hstart, hne⟩, fun _ => rfl⟩, nofun,
      fun hname' => absurd hname' hname⟩

/-- A keyword is spelled with the one name that may begin with two underscores. -/
theorem recognize_keyword_stack :
    ∃ (s : Spellings) (table : Table), Table.ofSpellings s = .ok table ∧
      s.text (.keyword .thisWord) = "__STACK__".toList ∧
      (∀ c, ".x".toList.head? = some c → Name.isPart c = false) ∧
      recognize table (s.text (.keyword .thisWord) ++ ".x".toList) =
        .ok { kind := .keyword .thisWord, text := "__STACK__".toList } := by
  let s : Spellings := Spellings.standard.set (.keyword .thisWord) (some "__STACK__".toList)
  have hfault : s.fault? = none := by decide +kernel
  have htable := Table.ofSpellings_of_faultless hfault
  have hrest : ∀ c, ".x".toList.head? = some c → Name.isPart c = false := by
    rintro c ⟨⟩
    decide
  exact ⟨s, _, htable, rfl, hrest, (recognize_keyword htable .thisWord hrest).1.2 fun _ => rfl⟩

/-- A table is accepted although one of its keywords is never recognized, not even alone on a line. -/
theorem keyword_refused_as_reserved :
    ∃ (s : Spellings) (table : Table), Table.ofSpellings s = .ok table ∧
      s.text (.keyword .classWord) = "__class".toList ∧
      recognize table (s.text (.keyword .classWord) ++ []) =
        .error (.reservedName "__class".toList) ∧
      recognize table (s.text (.keyword .classWord) ++ []) ≠
        .ok { kind := .keyword .classWord, text := s.text (.keyword .classWord) } := by
  let s : Spellings := Spellings.standard.set (.keyword .classWord) (some "__class".toList)
  have hfault : s.fault? = none := by decide +kernel
  have hrefused : recognize (Table.ofFaultless s hfault) (s.text (.keyword .classWord) ++ []) =
      .error (.reservedName "__class".toList) := recognize_of_isReserved (by decide)
  refine ⟨s, _, Table.ofSpellings_of_faultless hfault, rfl, hrefused, ?_⟩
  rw [hrefused]
  exact nofun

end Word

end ScriptLexer
