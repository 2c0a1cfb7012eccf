import ScriptLexer.CommandLine.Parser
import ScriptLexer.Proofs.Source.Path

/-!
# Files that have been looked for

The parser looks for a file under its path as given and hands it over under the normal form of that
path.  Since the normal form leads to the same file, the file can be opened when the arguments are
accepted (`checked_parse`).  In a directory nothing fails but what the parser asks about.
-/

namespace ScriptLexer

/-- No file is there that the system fails to open. -/
def FileSystem.Opening (files : FileSystem) : Prop :=
  ∀ path number reason, files path ≠ .error (.system number reason)

namespace Directory

variable {d : Directory} {number : Nat} {reason : Text}

lemma step_ne_system (part : Text) (place : Place) :
    d.step part place ≠ .error (.system number reason) := by
  intro h
  cases place with
  | file bytes => cases h
  | base =>
    simp only [step] at h
    split_ifs at h
    split at h <;> cases h
  | inner =>
    simp only [step] at h
    split_ifs at h
    cases h
  | outer =>
    simp only [step] at h
    split_ifs at h
    cases h

lemma walk_ne_system (parts : List Text) (place : Place) :
    d.walk place parts ≠ .error (.system number reason) := by
  induction parts generalizing place with
  | nil => exact nofun
  | cons part parts ih =>
    rw [walk]
    cases hstep : d.step part place with
    | ok next => exact ih next
    | error fault =>
      intro h
      exact step_ne_system part place (hstep.trans h)

lemma opening_find (d : Directory) : FileSystem.Opening d.find := by
  intro path number reason h
  unfold find at h
  split_ifs at h
  · cases h
  · cases h
  all_goals
    split at h
    · cases h
    · cases h
    · rename_i hwalk
      cases h
      exact walk_ne_system _ _ hwalk

end Directory

namespace CommandLine

variable {files : FileSystem} {args : List Text}

lemma Reading.exists_bytes_of_checkFile (hopening : files.Opening) {path : Text}
    (h : checkFile files path = .ok ()) : ∃ bytes, files path = .ok bytes := by
  unfold checkFile at h
  cases hfound : files path with
  | ok bytes => exact ⟨bytes, rfl⟩
  | error fault =>
    rw [hfound] at h
    cases fault with
    | system number reason => exact absurd hfound (hopening path number reason)
    | _ => cases h

lemma Reading.checked_of_arguments (hfiles : files.Normalizing) (hopening : files.Opening)
    {r : Reading} {a : Arguments} (h : r.arguments files = .ok a) : a.Checked files := by
  intro path hpath
  unfold arguments at h
  split at h
  · cases h
    cases hpath
  · rename_i given others hgiven
    split at h
    · cases h
    · rename_i hcheck
      cases h
      cases hpath
      obtain ⟨bytes, hbytes⟩ := exists_bytes_of_checkFile hopening hcheck
      exact ⟨bytes, hfiles given bytes hbytes⟩
    · cases h

/-- **Accepted arguments name a file that can be opened.**  Let the normal form of a path lead to the file
to which the path leads, and let the system open every file that is there.  If the parser accepts arguments
with a file, the file can be opened under the path that the parser hands over. -/
theorem checked_parse (hfiles : files.Normalizing) (hopening : files.Opening) (args : List Text) :
    (parse files args).Checked files := by
  intro a h
  unfold parse at h
  split at h
  · cases h
  · split at h
    · cases h
    · split at h
      · cases h
      · rename_i harguments
        cases h
        exact Reading.checked_of_arguments hfiles hopening harguments

lemma checked_parse_find (d : Directory) (args : List Text) : (parse d.find args).Checked d.find :=
  checked_parse d.normalizing_find d.opening_find args

end CommandLine

end ScriptLexer
