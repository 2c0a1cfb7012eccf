import Mathlib.Data.List.Basic
import ScriptLexer.Source.Directory

/-!
# A path and its normal form

The parts that the normal form of a path leaves out name the place where they stand, so following the
path without them leads to the same place (`Directory.walk_filter_isKept`).  A file is therefore found
under the normal form of each path under which it is found (`Directory.normalizing_find`).  The converse
does not hold: a part that is left out may stand behind a file, which is no place to go on from.
-/

namespace ScriptLexer

/-! ## Texts in parts -/

namespace Text

lemma parts_eq_splitOn (separator : Char) (t : Text) : parts separator t = t.splitOn separator := by
  induction t with
  | nil => rfl
  | cons d r ih =>
    rw [parts, ih, List.splitOn_eq_splitOnP, List.splitOn_eq_splitOnP,
      List.splitOnP_cons_eq_if_modifyHead]
    by_cases hd : d = separator
    · simp [hd]
    · obtain ⟨part, parts, hparts⟩ :=
        List.exists_cons_of_ne_nil (List.splitOnP_ne_nil (· == separator) r)
      simp [hd, hparts]

lemma join_eq_intercalate (separator : Text) (parts : List Text) :
    join separator parts = separator.intercalate parts := by
  induction parts with
  | nil => rfl
  | cons part parts ih =>
    cases parts with
    | nil => simp [join]
    | cons part' parts => rw [join, ih, List.intercalate_cons_cons]; simp

/-- Parts without the separator are found again when they have been joined. -/
lemma parts_join {separator : Char} {ps : List Text} (hne : ps ≠ [])
    (h : ∀ part ∈ ps, separator ∉ part) : parts separator (join [separator] ps) = ps := by
  rw [parts_eq_splitOn, join_eq_intercalate]
  exact List.splitOn_intercalate separator h hne

/-- A text is its parts, joined again. -/
lemma join_parts (separator : Char) (t : Text) : join [separator] (parts separator t) = t := by
  rw [parts_eq_splitOn, join_eq_intercalate]
  exact List.intercalate_splitOn separator

lemma separator_notMem_of_mem_parts {separator : Char} {t part : Text}
    (h : part ∈ parts separator t) : separator ∉ part := by
  fun_induction parts separator t generalizing part with
  | case1 => simp_all
  | case2 r ih =>
    rcases List.mem_cons.1 h with rfl | hmem
    · exact List.not_mem_nil
    · exact ih hmem
  | case3 d r hd hnil ih =>
    obtain rfl := List.mem_singleton.1 h
    simpa using Ne.symm hd
  | case4 d r hd first others hparts ih =>
    rw [hparts] at ih
    rcases List.mem_cons.1 h with rfl | hmem
    · exact List.not_mem_cons_of_ne_of_not_mem (Ne.symm hd) (ih List.mem_cons_self)
    · exact ih (List.mem_cons_of_mem _ hmem)

lemma head?_join {separator first : Text} (others : List Text) (hfirst : first ≠ []) :
    (join separator (first :: others)).head? = first.head? := by
  cases others with
  | nil => rfl
  | cons part others =>
    obtain ⟨c, r, rfl⟩ := List.exists_cons_of_ne_nil hfirst
    rfl

lemma join_ne_nil {separator first : Text} (others : List Text) (hfirst : first ≠ []) :
    join separator (first :: others) ≠ [] := by
  intro hnil
  have hhead : (join separator (first :: others)).head? = first.head? := head?_join others hfirst
  rw [hnil] at hhead
  exact hfirst (List.head?_eq_none_iff.1 hhead.symm)

lemma mem_join_iff {separator : Text} {ps : List Text} {c : Char} (hc : c ∉ separator) :
    c ∈ join separator ps ↔ ∃ part ∈ ps, c ∈ part := by
  induction ps with
  | nil => simp [join]
  | cons part ps ih =>
    cases ps with
    | nil => simp [join]
    | cons part' ps => simp [join, ih, hc]

end Text

/-! ## Normal forms -/

/-- If a path leads to a file, the normal form of the path leads to the same file. -/
def FileSystem.Normalizing (files : FileSystem) : Prop :=
  ∀ path bytes, files path = .ok bytes → files (Path.normal path) = .ok bytes

namespace Path

/-- Whether the normal form keeps a part. -/
def isKept (part : Text) : Bool := !part.isEmpty && part != here

lemma root_eq_nil_iff {path : Text} : root path = [] ↔ path.head? ≠ some '/' := by
  have hwhile : path.takeWhile (· == '/') = [] ↔ path.head? ≠ some '/' := by
    cases path with
    | nil => simp
    | cons c path => by_cases hc : c = '/' <;> simp [hc]
  rw [← hwhile]
  unfold root
  split
  · rename_i hnil
    simp [hnil]
  · rename_i htwo
    simp [htwo]
  · rename_i hnot _
    simpa using hnot

lemma ne_nil_of_isKept {part : Text} (h : isKept part = true) : part ≠ [] := by
  rintro rfl
  cases h

/-- The normal form of a relative path of which some part is kept. -/
lemma normal_of_relative {path first : Text} {others : List Text} (hroot : root path = [])
    (hkept : (parts path).filter isKept = first :: others) (hfirst : first ≠ []) :
    normal path = Text.join ['/'] (first :: others) := by
  unfold normal
  change (parts path).filter (fun part => !part.isEmpty && part != here) = first :: others at hkept
  simp only [hroot, hkept, List.nil_append]
  split
  · rename_i hnil
    exact absurd hnil (Text.join_ne_nil others hfirst)
  · rfl

end Path

/-! ## Following a path -/

namespace Directory

variable {d : Directory}

/-- A part that the normal form leaves out names the place where it stands. -/
lemma eq_of_step_of_not_isKept {part : Text} {place next : Place}
    (hpart : Path.isKept part = false) (h : d.step part place = .ok next) : next = place := by
  have hhere : part = [] ∨ part = Path.here := by
    simpa [Path.isKept, or_iff_not_imp_left] using hpart
  cases place with
  | file bytes => cases h
  | base =>
    rw [step, if_pos hhere] at h
    exact (Except.ok.inj h).symm
  | inner =>
    rw [step, if_pos hhere] at h
    exact (Except.ok.inj h).symm
  | outer =>
    rw [step, if_pos (hhere.imp_right Or.inl)] at h
    exact (Except.ok.inj h).symm

/-- The parts that are kept lead to the same place. -/
lemma walk_filter_isKept {parts : List Text} {place last : Place}
    (h : d.walk place parts = .ok last) :
    d.walk place (parts.filter Path.isKept) = .ok last := by
  induction parts generalizing place with
  | nil => exact h
  | cons part parts ih =>
    rw [walk] at h
    cases hstep : d.step part place with
    | error fault =>
      rw [hstep] at h
      cases h
    | ok next =>
      rw [hstep] at h
      cases hpart : Path.isKept part with
      | true =>
        rw [List.filter_cons_of_pos hpart, walk, hstep]
        exact ih h
      | false =>
        rw [List.filter_cons_of_neg (by simp [hpart])]
        rw [eq_of_step_of_not_isKept hpart hstep] at h
        exact ih h

/-- From outside no path leads back. -/
lemma walk_outer {parts : List Text} {last : Place} (h : d.walk .outer parts = .ok last) :
    last = .outer := by
  induction parts with
  | nil => exact (Except.ok.inj h).symm
  | cons part parts ih =>
    rw [walk, step] at h
    split_ifs at h
    exact ih h

lemma find_eq_ok_iff {path : Text} {bytes : List UInt8} :
    d.find path = .ok bytes ↔
      path ≠ [] ∧ '\x00' ∉ path ∧ Path.root path = [] ∧
        d.walk .base (Path.parts path) = .ok (.file bytes) := by
  unfold find
  by_cases hnil : path = []
  · simp [hnil]
  by_cases hnul : '\x00' ∈ path
  · simp [hnil, hnul]
  by_cases hroot : Path.root path = []
  · simp only [hnil, hnul, hroot, List.contains_iff_mem, if_true, if_false, not_false_iff, true_and,
      ne_eq]
    split <;> simp_all
  · simp only [hnil, hnul, hroot, List.contains_iff_mem, if_false, not_false_iff, true_and, ne_eq,
      false_and, iff_false]
    split
    · rename_i hwalk
      exact absurd (walk_outer hwalk) nofun
    · exact nofun
    · exact nofun

/-- **The normal form leads to the file.**  A file that is found under a path is found under its normal
form. -/
theorem normalizing_find (d : Directory) : FileSystem.Normalizing d.find := by
  intro path bytes h
  obtain ⟨-, hnul, hroot, hwalk⟩ := find_eq_ok_iff.1 h
  have hkeeps := walk_filter_isKept hwalk
  cases hkept : (Path.parts path).filter Path.isKept with
  | nil =>
    rw [hkept] at hkeeps
    cases hkeeps
  | cons first others =>
    have hmem : ∀ part ∈ first :: others, part ∈ Path.parts path ∧ Path.isKept part = true := by
      intro part hpart
      rw [← hkept] at hpart
      exact List.mem_filter.1 hpart
    have hslash : ∀ part ∈ first :: others, '/' ∉ part := fun part hpart =>
      Text.separator_notMem_of_mem_parts (hmem part hpart).1
    have hfirst : first ≠ [] := Path.ne_nil_of_isKept (hmem first List.mem_cons_self).2
    rw [Path.normal_of_relative hroot hkept hfirst]
    refine find_eq_ok_iff.2 ⟨Text.join_ne_nil others hfirst, ?noNul, ?relative, ?walks⟩
    case noNul =>
      intro hin
      obtain ⟨part, hpart, hin⟩ := (Text.mem_join_iff (by decide)).1 hin
      rw [← Text.join_parts '/' path] at hnul
      exact hnul ((Text.mem_join_iff (by decide)).2 ⟨part, (hmem part hpart).1, hin⟩)
    case relative =>
      rw [Path.root_eq_nil_iff, Text.head?_join others hfirst]
      exact fun hsome => hslash first List.mem_cons_self (List.mem_of_head? hsome)
    case walks =>
      rw [Path.parts, Text.parts_join (List.cons_ne_nil first others) hslash, ← hkept]
      exact hkeeps

end Directory

end ScriptLexer
