import ScriptLexer.Proofs.Cursor.Scan
import ScriptLexer.Session

/-!
# Reading a line to its end

The tokens of a line are asked for one by one until there is none.  `Reads s ts s'` is this run as
a relation, so that a statement about all tokens of a line is proved by induction on it.
-/

namespace ScriptLexer.Session

/-- A call that gives a token or tells the end of the line is a scan, and changes nothing else. -/
lemma nextFromLine_eq_ok {s after : Session} {found : Option Token}
    (h : s.nextFromLine = (.ok found, after)) :
    (s.cursor.scan s.rules).found = .ok found ∧ after.cursor = (s.cursor.scan s.rules).cursor ∧
      after.rules = s.rules := by
  unfold nextFromLine at h
  simp only at h
  split at h
  · rename_i found' hscan
    simp only [Prod.mk.injEq, Except.ok.injEq] at h
    obtain ⟨rfl, rfl⟩ := h
    exact ⟨hscan, rfl, rfl⟩
  · simp at h

lemma nextFromLine_of_scan {s : Session} {found : Option Token}
    (h : (s.cursor.scan s.rules).found = .ok found) :
    ∃ after, s.nextFromLine = (.ok found, after) ∧
      after.cursor = (s.cursor.scan s.rules).cursor ∧ after.rules = s.rules := by
  unfold nextFromLine
  simp only [h]
  exact ⟨_, rfl, rfl, rfl⟩

/-- The session `s` gives the tokens `ts` and then the end of the line, in the state `s'`. -/
inductive Reads : Session → List Token → Session → Prop
  /-- The line holds no more. -/
  | done {s after : Session} : s.nextFromLine = (.ok none, after) → Reads s [] after
  /-- One token, then the others. -/
  | token {s next after : Session} {t : Token} {ts : List Token} :
      s.nextFromLine = (.ok (some t), next) → Reads next ts after → Reads s (t :: ts) after

lemma reads_of_drainLine {s after : Session} {ts : List Token}
    (h : s.drainLine = (.ok ts, after)) : Reads s ts after := by
  fun_induction drainLine s generalizing ts after with
  | case1 => simp at h
  | case2 s next hnext =>
    simp only [Prod.mk.injEq, Except.ok.injEq] at h
    obtain ⟨rfl, rfl⟩ := h
    exact Reads.done hnext
  | case3 s t next hnext ts' last hlast ih =>
    simp only [Prod.mk.injEq, Except.ok.injEq] at h
    obtain ⟨rfl, rfl⟩ := h
    exact Reads.token hnext (ih hlast)
  | case4 => simp at h

lemma drainLine_of_reads {s after : Session} {ts : List Token} (h : Reads s ts after) :
    s.drainLine = (.ok ts, after) := by
  induction h with
  | done hnext =>
    rw [drainLine]
    split <;> simp_all
  | token hnext _ ih =>
    rw [drainLine]
    split <;> simp_all

/-- Draining a line succeeds exactly on such a run. -/
lemma drainLine_eq_ok_iff {s after : Session} {ts : List Token} :
    s.drainLine = (.ok ts, after) ↔ Reads s ts after :=
  ⟨reads_of_drainLine, drainLine_of_reads⟩

end ScriptLexer.Session
