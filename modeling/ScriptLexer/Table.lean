import ScriptLexer.Kind
import ScriptLexer.Name
import ScriptLexer.Text.Quoted

/-!
# Spelling tables

A table fixes how every kind of token is spelled.  A choice of spellings is accepted if every kind
has some text, no two operators or keywords share theirs, and every keyword is spelled as a name.
The first condition lets every token consume text, the second makes the longest match unique, the
third lets a word be recognized as a name before it is looked up.
-/

namespace ScriptLexer

/-- A choice of spellings: a text for each kind, or none. -/
abbrev Spellings := Kind → Option Text

namespace Spellings

/-- The spellings of the language. -/
def standard : Spellings := fun k => some k.standardSpelling

/-- The spellings with that of one kind replaced, or removed. -/
def set (s : Spellings) (k : Kind) (t : Option Text) : Spellings :=
  fun j => if j = k then t else s j

/-- The text chosen for a kind, empty if there is none. -/
def text (s : Spellings) (k : Kind) : Text := (s k).getD []

end Spellings

/-- Why a choice of spellings is refused, or a table not built. -/
inductive TableError where
  /-- A kind has no text. -/
  | noSpelling (k : Kind)
  /-- Two operators or keywords have the same text. -/
  | sharedSpelling (first second : Kind) (spelling : Text)
  /-- A keyword is not spelled as a name. -/
  | notAName (k : Keyword) (spelling : Text)
  /-- The table of the running program exists already. -/
  | alreadyBuilt
deriving DecidableEq, Repr

/-- The wording of a refusal. -/
def TableError.message : TableError → Text
  | .noSpelling k => "token " ++ k.name ++ " has no spelling"
  | .sharedSpelling first second spelling =>
    "tokens " ++ first.name ++ " and " ++ second.name ++ " share the spelling " ++
      Quoted.ofText spelling
  | .notAName k spelling =>
    "keyword " ++ k.name ++ " spelling " ++ Quoted.ofText spelling ++ " is not a valid identifier"
  | .alreadyBuilt => "token table has already been initialized"

namespace Spellings

/-- The first kind without text. -/
def missing? (s : Spellings) : Option Kind := Kind.all.find? fun k => (s.text k).isEmpty

/-- The first of `kinds` whose text is that of one of `seen` or of an earlier one of `kinds`,
behind the kind that had this text before. -/
def repeated? (s : Spellings) (seen : List Kind) : List Kind → Option (Kind × Kind)
  | [] => none
  | k :: kinds =>
    match seen.find? fun j => s.text j == s.text k with
    | some j => some (j, k)
    | none => repeated? s (k :: seen) kinds

/-- The first keyword that is not spelled as a name. -/
def misnamed? (s : Spellings) : Option Keyword :=
  Keyword.all.find? fun k => !Name.isValid (s.text (.keyword k))

/-- The reason to refuse a choice of spellings, if there is one.  Missing texts are reported
first, then shared ones, then keywords that are no names. -/
def fault? (s : Spellings) : Option TableError :=
  match s.missing? with
  | some k => some (.noSpelling k)
  | none =>
    match s.repeated? [] Kind.fixed with
    | some (j, k) => some (.sharedSpelling j k (s.text k))
    | none => s.misnamed?.map fun k => .notAName k (s.text (.keyword k))

theorem pairwise_of_repeated?_eq_none {s : Spellings} {seen kinds : List Kind}
    (h : s.repeated? seen kinds = none) :
    (∀ j ∈ seen, ∀ k ∈ kinds, s.text j ≠ s.text k) ∧
      kinds.Pairwise fun j k => s.text j ≠ s.text k := by
  induction kinds generalizing seen with
  | nil => simp
  | cons k kinds ih =>
    rw [repeated?] at h
    split at h
    · cases h
    · rename_i hseen
      have ⟨apart, rest⟩ := ih h
      simp only [List.find?_eq_none, beq_iff_eq] at hseen
      simp only [List.mem_cons, forall_eq_or_imp] at apart
      refine ⟨fun j hj => ?_, List.pairwise_cons.2 ⟨apart.1, rest⟩⟩
      simp only [List.mem_cons, forall_eq_or_imp]
      exact ⟨hseen j hj, apart.2 j hj⟩

/-- On a list whose members have pairwise different texts, the text tells the kind. -/
theorem eq_of_text_eq {s : Spellings} {kinds : List Kind}
    (h : kinds.Pairwise fun j k => s.text j ≠ s.text k) {a b : Kind} (ha : a ∈ kinds)
    (hb : b ∈ kinds) (hab : s.text a = s.text b) : a = b := by
  induction h with
  | nil => simp at ha
  | cons apart _ ih =>
    rcases List.mem_cons.1 ha with rfl | ha' <;> rcases List.mem_cons.1 hb with rfl | hb'
    · rfl
    · exact absurd hab (apart _ hb')
    · exact absurd hab.symm (apart _ ha')
    · exact ih ha' hb'

end Spellings

/-- An accepted choice of spellings. -/
structure Table where
  /-- The text of each kind. -/
  spelling : Kind → Text
  /-- Every kind has some text. -/
  spelling_ne_nil : ∀ k, spelling k ≠ []
  /-- Operators and keywords are told apart by their texts. -/
  eq_of_spelling_eq : ∀ a ∈ Kind.fixed, ∀ b ∈ Kind.fixed, spelling a = spelling b → a = b
  /-- Keywords are spelled as names. -/
  isValid_keyword : ∀ k : Keyword, Name.isValid (spelling (.keyword k)) = true

namespace Table

/-- The table of spellings in which no fault was found. -/
def ofFaultless (s : Spellings) (h : s.fault? = none) : Table :=
  have missing : s.missing? = none := by
    unfold Spellings.fault? at h
    split at h
    · cases h
    · assumption
  have repeated : s.repeated? [] Kind.fixed = none := by
    simp only [Spellings.fault?, missing] at h
    split at h
    · cases h
    · assumption
  have misnamed : s.misnamed? = none := by
    simpa [Spellings.fault?, missing, repeated] using h
  { spelling := s.text
    spelling_ne_nil := fun k => by
      have := List.find?_eq_none.1 missing k (Kind.mem_all k)
      simpa using this
    eq_of_spelling_eq := fun _ ha _ hb hab =>
      Spellings.eq_of_text_eq (Spellings.pairwise_of_repeated?_eq_none repeated).2 ha hb hab
    isValid_keyword := fun k => by
      have := List.find?_eq_none.1 misnamed k (Keyword.mem_all k)
      simpa using this }

/-- The table of a choice of spellings, or the reason to refuse it. -/
def ofSpellings (s : Spellings) : Except TableError Table :=
  match h : s.fault? with
  | some e => .error e
  | none => .ok (ofFaultless s h)

theorem fault?_standard : Spellings.standard.fault? = none := by decide +kernel

/-- The table of the language. -/
def standard : Table := ofFaultless Spellings.standard fault?_standard

/-- The keyword that a name spells. -/
def keyword? (t : Table) (name : Text) : Option Keyword :=
  Keyword.all.find? fun k => t.spelling (.keyword k) == name

/-- The operators with their texts, in order; the caseless comparisons only if asked for. -/
def operators (t : Table) (caseless : Bool) : List (Operator × Text) :=
  (Operator.all.filter fun o => caseless || !o.isCaseless).map fun o => (o, t.spelling (.operator o))

/-- The keywords behind their texts, in order. -/
def keywords (t : Table) : List (Text × Keyword) :=
  Keyword.all.map fun k => (t.spelling (.keyword k), k)

end Table

end ScriptLexer
