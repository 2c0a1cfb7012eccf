import ScriptLexer.Cursor.Next
import ScriptLexer.Proofs.Comment.Counted

/-!
# The next token, with every assumption checked

Guarded runs, as in `Proofs.Lexeme.Guarded`, of what is done with the line at hand and with the
reads to come.  The depth of nested comments is counted as in `Proofs.Comment.Counted`, by an integer
that must not become negative, and a token is cut off only if its text stands at the start of the line.
Each of the loops, over the marks of a nested comment, the comments in a row and the lines of a source,
has a bound on its rounds.

Again there is never a breach: `scanGuarded_eq` and `nextGuarded_eq`.
-/

namespace ScriptLexer

/-! ## Comments -/

namespace Comment

/-- Leaves the comment that is open at the start of a text, guarded. -/
def leaveGuarded (rounds : Nat) (m : Mode) (t : Text) : Guarded (Mode × Text) :=
  ((Counted.ofMode m).leave rounds t).map fun (c, rest) => (c.mode, rest)

/-- Passes over the comments at the start of a text, guarded. -/
def skipGuarded (steps : Nat) : (rounds : Nat) → Mode → Text → Guarded Skipped
  | 0, _, _ => .error .unfinished
  | rounds + 1, m, t =>
    (leaveGuarded steps m t).bind fun inner =>
      match front inner.2 with
      | .nothing => .ok ⟨.code [], inner.1, change m inner.1⟩
      | .code => .ok ⟨.code inner.2, inner.1, change m inner.1⟩
      | .closing form => .ok ⟨.stray form inner.2, inner.1, change m inner.1⟩
      | .opening form rest =>
        (skipGuarded steps rounds form.opened rest).map
          (Skipped.after (change m inner.1 ++ change inner.1 form.opened))

lemma leaveGuarded_eq {rounds : Nat} {t : Text} (m : Mode) (h : t.length < rounds) :
    leaveGuarded rounds m t = .ok (leave m t) := by
  rw [leaveGuarded, Counted.leave_ofMode m h]
  simp only [Except.map, Counted.mode_ofMode]

/-- Every round passes over an opening mark. -/
lemma skipGuarded_eq {steps rounds : Nat} {m : Mode} {t : Text} (hsteps : t.length < steps)
    (h : t.length < rounds) : skipGuarded steps rounds m t = .ok (skip m t) := by
  induction rounds generalizing m t with
  | zero => omega
  | succ rounds ih =>
    rw [skipGuarded, leaveGuarded_eq m hsteps]
    simp only [Except.bind]
    fun_cases skip m t with
    | case1 inner hfront => simp only [inner] at hfront; rw [hfront]
    | case2 inner hfront => simp only [inner] at hfront; rw [hfront]
    | case3 inner form hfront => simp only [inner] at hfront; rw [hfront]
    | case4 inner form rest hfront =>
      have hshort := length_of_front hfront
      have hleft : inner.2.length ≤ t.length := length_leave_le m t
      simp only [inner] at hfront
      rw [hfront]
      dsimp only
      rw [ih (by omega) (by omega)]
      rfl

end Comment

/-! ## The line at hand -/

namespace Cursor

/-- Scans the text of the script in front of which the cursor stands, guarded. -/
def scanCodeGuarded (steps : Nat) (r : Rules) (c : Cursor) : Guarded Scan :=
  if c.rest = [] then .ok ⟨.ok none, c, []⟩
  else if isDirective r c.rest then
    .ok ⟨.ok none, { c with rest := [] }, [.directiveSkipped ⟨r.file, c.lineNumber⟩ c.rest]⟩
  else
    (Lexeme.readGuarded steps r.table r.options.caselessOperators c.rest).bind fun
      | .ok l =>
        if l.text.isPrefixOf c.rest then .ok ⟨.ok (some (c.token r l)), c.behind l, []⟩
        else .error .notAtStart
      | .error fault => .ok ⟨.error fault, c, []⟩

/-- Scans for the next token of the line, guarded. -/
def scanGuarded (steps : Nat) (r : Rules) (c : Cursor) : Guarded Scan :=
  (Comment.skipGuarded steps steps c.mode c.rest).bind fun skipped =>
    let events := skipped.changes.map fun (old, new) => Event.modeChanged old new
    match skipped.outcome with
    | .stray form line =>
      .ok ⟨.error (.strayClose form line), { c with mode := skipped.mode }, events⟩
    | .code rest =>
      (scanCodeGuarded steps r { c with rest, mode := skipped.mode }).map fun inner =>
        { inner with events := events ++ inner.events }

/-- The next token of a source, guarded. -/
def nextGuarded (steps : Nat) (r : Rules) (marked : Bool) :
    (rounds : Nat) → Cursor → List Chunk → Guarded Pull
  | 0, _, _ => .error .unfinished
  | rounds + 1, c, chunks =>
    (scanGuarded steps r c).bind fun s =>
      match s.found with
      | .ok (some t) => .ok ⟨.ok t, s.cursor, chunks, s.events⟩
      | .error fault => .ok ⟨.error ⟨fault, c.location r⟩, s.cursor, chunks, s.events⟩
      | .ok none =>
        match chunks with
        | [] => .ok ⟨s.cursor.finish r, s.cursor, [], s.events⟩
        | chunk :: chunks =>
          if chunk.isEmpty then .ok ⟨s.cursor.finish r, s.cursor, chunks, s.events⟩
          else
            match chunk.decode with
            | .error fault =>
              .ok ⟨.error ⟨.encoding fault, some ⟨r.file, s.cursor.lineNumber + 1⟩⟩, s.cursor,
                chunks, s.events⟩
            | .ok line =>
              (nextGuarded steps r marked rounds (s.cursor.start (s.cursor.unmarked marked line))
                chunks).map fun later => { later with events := s.events ++ later.events }

variable {steps : Nat} {r : Rules} {c : Cursor}

lemma scanCodeGuarded_eq (h : c.rest.length < steps) :
    scanCodeGuarded steps r c = .ok (scanCode r c) := by
  unfold scanCodeGuarded scanCode
  split_ifs
  · rfl
  · rfl
  · rw [Lexeme.readGuarded_eq _ _ (Nat.le_of_lt h)]
    simp only [Except.bind]
    cases hread : Lexeme.read r.table r.options.caselessOperators c.rest with
    | error fault => rfl
    | ok l =>
      have hstart := (Lexeme.text_of_read hread).2
      exact if_pos (List.isPrefixOf_iff_prefix.2 hstart)

lemma scanGuarded_eq (h : c.rest.length < steps) : scanGuarded steps r c = .ok (scan r c) := by
  unfold scanGuarded scan
  rw [Comment.skipGuarded_eq h h]
  simp only [Except.bind]
  cases hskip : (Comment.skip c.mode c.rest).outcome with
  | stray form line => rfl
  | code rest =>
    have hrest := Comment.length_of_skip hskip
    dsimp only
    rw [scanCodeGuarded_eq (Nat.lt_of_le_of_lt hrest h)]
    rfl

/-- Every round but the last uses up a read. -/
lemma nextGuarded_eq {marked : Bool} {rounds : Nat} {chunks : List Chunk}
    (hsteps : c.pending chunks < steps) (h : chunks.length < rounds) :
    nextGuarded steps r marked rounds c chunks = .ok (next r marked c chunks) := by
  induction rounds generalizing c chunks with
  | zero => omega
  | succ rounds ih =>
    have hscan : scanGuarded steps r c = .ok (scan r c) :=
      scanGuarded_eq (Nat.lt_of_le_of_lt (Nat.le_add_right _ _) hsteps)
    rw [nextGuarded, hscan, next.eq_def]
    simp only [Except.bind]
    cases (scan r c).found with
    | error fault => rfl
    | ok found =>
      cases found with
      | some t => rfl
      | none =>
        cases chunks with
        | nil => rfl
        | cons chunk chunks =>
          dsimp only
          split_ifs
          · rfl
          · cases hdecode : chunk.decode with
            | error fault => rfl
            | ok line =>
              have hstart := length_start_le (scan r c).cursor marked line
              have hsize := Chunk.length_of_decode hdecode
              simp only [pending, List.foldr_cons] at hsteps
              dsimp only
              rw [ih (by simp only [pending]; omega) (Nat.lt_of_succ_lt_succ h)]
              rfl

end Cursor

end ScriptLexer
