import ScriptLexer.Cursor
import ScriptLexer.Proofs.Comment.Reached

/-!
# What one scan can do

A scan passes over comments and then meets a stray closing mark, the end of the line, a directive, a
lexeme or a faulty lexeme.  The lemmas here say for each result of a scan which of these it was and
where the cursor stands afterwards.  Nothing after this file unfolds `scan`.
-/

namespace ScriptLexer

/-- The fault is shown by what stands at the start of the text. -/
inductive Fault.At : Fault → Text → Prop
  /-- A closing mark. -/
  | strayClose {form : Comment.Form} {line : Text} :
      Comment.front line = .closing form → At (.strayClose form line) line
  /-- A literal that is refused. -/
  | literal {fault : Literal.Fault} {line : Text} :
      Literal.read? line = some (.error fault) → At (.literal fault line) line
  /-- A name that is kept for internal use. -/
  | reservedName {line : Text} :
      Word.isReserved (Name.leading line) = true → At (.reservedName (Name.leading line)) line
  /-- Nothing known. -/
  | noToken (line : Text) : At (.noToken line) line

lemma Lexeme.at_of_read_eq_error {table : Table} {caseless : Bool} {line : Text} {fault : Fault}
    (h : read table caseless line = .error fault) : fault.At line := by
  unfold read at h
  split at h
  · cases h
  · rename_i inner hliteral
    obtain rfl := Except.error.inj h
    exact Fault.At.literal hliteral
  · split_ifs at h
    · split at h
      · cases h
      · rename_i hword
        obtain rfl := Except.error.inj h
        simp only [Word.read?, ite_eq_left_iff, reduceCtorEq, imp_false, not_not] at hword
        exact Fault.At.reservedName hword
    · split at h
      · cases h
      · obtain rfl := Except.error.inj h
        exact Fault.At.noToken line

/-- Only a closing mark is told as one. -/
lemma Fault.At.kind_eq_iff {fault : Fault} {line : Text} (h : fault.At line) :
    fault.kind = .unmatchedCommentEnd ↔ ∃ form, fault = .strayClose form line := by
  constructor
  · intro hkind
    cases h with
    | strayClose _ => exact ⟨_, rfl⟩
    | @literal fault _ _ => rcases fault with quote | (_ | _ | _ | _) <;> cases hkind
    | reservedName _ => cases hkind
    | noToken _ => cases hkind
  · rintro ⟨form, rfl⟩
    rfl

/-- No closing mark is told where none stands. -/
lemma Lexeme.kind_ne_of_read_eq_error {table : Table} {caseless : Bool} {line : Text}
    {fault : Fault} (hfront : Comment.front line = .code)
    (h : read table caseless line = .error fault) : fault.kind ≠ .unmatchedCommentEnd := by
  have hat := at_of_read_eq_error h
  intro hkind
  obtain ⟨form, rfl⟩ := hat.kind_eq_iff.1 hkind
  cases hat with
  | strayClose hclosing =>
    rw [hfront] at hclosing
    cases hclosing

namespace Cursor

variable {r : Rules} {c : Cursor}

/-- The cursor behind the comments in front of it, when `rest` follows them. -/
def behindComments (c : Cursor) (rest : Text) : Cursor :=
  { c with rest, mode := (Comment.skip c.mode c.rest).mode }

/-! ## Scanning text outside comments -/

/-- Whether a directive begins depends on the first character only. -/
lemma isDirective_append {t line rest : Text} (hne : t ≠ []) (ht : t <+: line) :
    isDirective r (t ++ rest) = isDirective r line := by
  obtain ⟨u, rfl⟩ := ht
  obtain ⟨a, t, rfl⟩ := List.exists_cons_of_ne_nil hne
  rfl

lemma scanCode_eq_some {t : Token} (h : (scanCode r c).found = .ok (some t)) :
    c.rest ≠ [] ∧ isDirective r c.rest = false ∧
      ∃ l, Lexeme.read r.table r.options.caselessOperators c.rest = .ok l ∧
        t = c.token r l ∧ (scanCode r c).cursor = c.behind l := by
  unfold scanCode at h ⊢
  split_ifs at h ⊢ with hnil hdir
  · simp at h
  · simp at h
  · refine ⟨hnil, Bool.eq_false_iff.2 hdir, ?_⟩
    cases hl : Lexeme.read r.table r.options.caselessOperators c.rest with
    | error fault => simp [hl] at h
    | ok l =>
      simp only [hl, Except.ok.injEq, Option.some.injEq] at h
      exact ⟨l, rfl, h.symm, rfl⟩

lemma scanCode_eq_none (h : (scanCode r c).found = .ok none) :
    (c.rest = [] ∨ isDirective r c.rest = true) ∧
      (scanCode r c).cursor = { c with rest := [] } := by
  unfold scanCode at h ⊢
  split_ifs at h ⊢ with hnil hdir
  · exact ⟨Or.inl hnil, by rw [← hnil]⟩
  · exact ⟨Or.inr hdir, rfl⟩
  · split at h <;> simp at h

lemma scanCode_eq_error {fault : Fault} (h : (scanCode r c).found = .error fault) :
    c.rest ≠ [] ∧ isDirective r c.rest = false ∧
      Lexeme.read r.table r.options.caselessOperators c.rest = .error fault ∧
      (scanCode r c).cursor = c := by
  unfold scanCode at h ⊢
  split_ifs at h ⊢ with hnil hdir
  refine ⟨hnil, Bool.eq_false_iff.2 hdir, ?_⟩
  cases hl : Lexeme.read r.table r.options.caselessOperators c.rest with
  | error fault' =>
    simp only [hl, Except.error.injEq] at h
    exact ⟨congrArg Except.error h, rfl⟩
  | ok l => simp [hl] at h

lemma scanCode_of_read {l : Lexeme} (hne : c.rest ≠ []) (hdir : isDirective r c.rest = false)
    (hread : Lexeme.read r.table r.options.caselessOperators c.rest = .ok l) :
    scanCode r c = ⟨.ok (some (c.token r l)), c.behind l, []⟩ := by
  unfold scanCode
  simp only [hne, hdir, hread, if_false, Bool.false_eq_true]

lemma scanCode_of_read_error {fault : Fault} (hne : c.rest ≠ [])
    (hdir : isDirective r c.rest = false)
    (hread : Lexeme.read r.table r.options.caselessOperators c.rest = .error fault) :
    scanCode r c = ⟨.error fault, c, []⟩ := by
  unfold scanCode
  simp only [hne, hdir, hread, if_false, Bool.false_eq_true]

/-- At the end of the line, or in front of a directive, no token is found. -/
lemma scanCode_of_end (h : c.rest = [] ∨ isDirective r c.rest = true) :
    (scanCode r c).found = .ok none ∧ (scanCode r c).cursor = { c with rest := [] } := by
  unfold scanCode
  by_cases hnil : c.rest = []
  · rw [if_pos hnil, ← hnil]
    exact ⟨rfl, rfl⟩
  · rw [if_neg hnil, if_pos (h.resolve_left hnil)]
    exact ⟨rfl, rfl⟩

/-! ## Scanning -/

lemma scan_of_stray {form : Comment.Form} {line : Text}
    (h : (Comment.skip c.mode c.rest).outcome = .stray form line) :
    (scan r c).found = .error (.strayClose form line) := by
  unfold scan
  simp only [h]

/-- A stray closing mark leaves the line as it was. -/
lemma cursor_scan_of_stray {form : Comment.Form} {line : Text}
    (h : (Comment.skip c.mode c.rest).outcome = .stray form line) :
    (scan r c).cursor = { c with mode := (Comment.skip c.mode c.rest).mode } := by
  unfold scan
  simp only [h]

/-- Behind the comments a scan is one of text outside comments. -/
lemma scan_of_code {rest : Text} (h : (Comment.skip c.mode c.rest).outcome = .code rest) :
    (scan r c).found = (scanCode r (c.behindComments rest)).found ∧
      (scan r c).cursor = (scanCode r (c.behindComments rest)).cursor := by
  unfold scan
  simp only [h]
  exact ⟨rfl, rfl⟩

/-- The same, from what is left behind the comments and the mode there. -/
lemma scan_of_reached {rest : Text} {m : Comment.Mode}
    (h : (Comment.skip c.mode c.rest).reached = (.code rest, m)) :
    (scan r c).found = (scanCode r { c with rest, mode := m }).found ∧
      (scan r c).cursor = (scanCode r { c with rest, mode := m }).cursor := by
  obtain ⟨houtcome, hmode⟩ := Prod.mk.inj h
  have hbehind : c.behindComments rest = { c with rest, mode := m } := by
    rw [behindComments, hmode]
  rw [← hbehind]
  exact scan_of_code houtcome

/-- In front of text of the script a scan passes over nothing. -/
lemma scan_of_front (hmode : c.mode = .outside) (hfront : Comment.front c.rest = .code) :
    (scan r c).found = (scanCode r c).found ∧ (scan r c).cursor = (scanCode r c).cursor := by
  have hskip := Comment.skip_outside_of_front hfront
  have hbehind : c.behindComments c.rest = c := by
    unfold behindComments
    rw [hmode, hskip, ← hmode]
  have houtcome : (Comment.skip c.mode c.rest).outcome = .code c.rest := by rw [hmode, hskip]
  have hscan := scan_of_code (r := r) houtcome
  rwa [hbehind] at hscan

/-- Outside comments a lexeme at the cursor becomes a token. -/
lemma scan_of_read {l : Lexeme} (hmode : c.mode = .outside) (hfront : Comment.front c.rest = .code)
    (hdir : isDirective r c.rest = false)
    (hread : Lexeme.read r.table r.options.caselessOperators c.rest = .ok l) :
    (scan r c).found = .ok (some (c.token r l)) ∧ (scan r c).cursor = c.behind l := by
  obtain ⟨hfound, hcursor⟩ := scan_of_front (r := r) hmode hfront
  rw [hfound, hcursor, scanCode_of_read (Comment.ne_nil_of_front_code hfront) hdir hread]
  exact ⟨rfl, rfl⟩

/-- Where nothing is left of the line, its end is found at once. -/
lemma scan_of_nil (hnil : c.rest = []) : (scan r c).found = .ok none := by
  have hskip : (Comment.skip c.mode c.rest).outcome = .code [] := by rw [hnil, Comment.skip_nil]
  rw [(scan_of_code hskip).1]
  rfl

/-- A token is cut off behind the comments, where no directive begins. -/
lemma scan_eq_some {t : Token} (h : (scan r c).found = .ok (some t)) :
    ∃ rest l, (Comment.skip c.mode c.rest).outcome = .code rest ∧ rest ≠ [] ∧
      isDirective r rest = false ∧
      Lexeme.read r.table r.options.caselessOperators rest = .ok l ∧
      t = (c.behindComments rest).token r l ∧
      (scan r c).cursor = (c.behindComments rest).behind l := by
  cases hskip : (Comment.skip c.mode c.rest).outcome with
  | stray form line => simp [scan_of_stray hskip] at h
  | code rest =>
    obtain ⟨hfound, hcursor⟩ := scan_of_code (r := r) hskip
    rw [hfound] at h
    obtain ⟨hne, hdir, l, hl, ht, hbehind⟩ := scanCode_eq_some h
    exact ⟨rest, l, rfl, hne, hdir, hl, ht, hcursor.trans hbehind⟩

/-- No token is found if nothing, or a directive, is left behind the comments. -/
lemma scan_eq_none (h : (scan r c).found = .ok none) :
    ∃ rest, (Comment.skip c.mode c.rest).outcome = .code rest ∧
      (rest = [] ∨ isDirective r rest = true) ∧
      (scan r c).cursor = c.behindComments [] := by
  cases hskip : (Comment.skip c.mode c.rest).outcome with
  | stray form line => simp [scan_of_stray hskip] at h
  | code rest =>
    obtain ⟨hfound, hcursor⟩ := scan_of_code (r := r) hskip
    rw [hfound] at h
    obtain ⟨hrest, hend⟩ := scanCode_eq_none h
    exact ⟨rest, rfl, hrest, hcursor.trans hend⟩

/-- A fault is a stray closing mark, which leaves the line as it was, or a faulty lexeme behind the
comments, in front of which the cursor stays. -/
lemma scan_eq_error {fault : Fault} (h : (scan r c).found = .error fault) :
    (∃ form line, (Comment.skip c.mode c.rest).outcome = .stray form line ∧
      fault = .strayClose form line ∧ (scan r c).cursor = { c with mode := .outside }) ∨
    ∃ rest, (Comment.skip c.mode c.rest).outcome = .code rest ∧ rest ≠ [] ∧
      isDirective r rest = false ∧
      Lexeme.read r.table r.options.caselessOperators rest = .error fault ∧
      (scan r c).cursor = { c with rest, mode := .outside } := by
  cases hskip : (Comment.skip c.mode c.rest).outcome with
  | stray form line =>
    rw [scan_of_stray hskip] at h
    left
    refine ⟨form, line, rfl, (Except.error.inj h).symm, ?_⟩
    rw [cursor_scan_of_stray hskip, (Comment.gap_of_skip_stray hskip).1]
  | code rest =>
    right
    obtain ⟨hfound, hcursor⟩ := scan_of_code (r := r) hskip
    rw [hfound] at h
    obtain ⟨hne, hdir, hread, hstay⟩ := scanCode_eq_error h
    refine ⟨rest, rfl, hne, hdir, hread, hcursor.trans (hstay.trans ?_)⟩
    rw [behindComments, (Comment.gap_of_skip hskip hne).1]

/-- A fault stands behind a gap. -/
lemma gap_of_scan_eq_error {fault : Fault} (h : (scan r c).found = .error fault) :
    ∃ g line, c.rest = g ++ line ∧ Comment.Gap c.mode g .outside ∧ fault.At line := by
  rcases scan_eq_error h with ⟨form, line, hskip, rfl, -⟩ | ⟨rest, hskip, hne, -, hread, -⟩
  · obtain ⟨-, hfront, g, hline, hgap⟩ := Comment.gap_of_skip_stray hskip
    exact ⟨g, line, hline, hgap, Fault.At.strayClose hfront⟩
  · obtain ⟨-, g, hline, hgap⟩ := Comment.gap_of_skip hskip hne
    exact ⟨g, rest, hline, hgap, Lexeme.at_of_read_eq_error hread⟩

/-- What a scan leaves is the end of the line. -/
lemma rest_scan_suffix (r : Rules) (c : Cursor) : (scan r c).cursor.rest <:+ c.rest := by
  cases hfound : (scan r c).found with
  | error fault =>
    rcases scan_eq_error hfound with ⟨form, line, -, -, hcursor⟩ | ⟨rest, hskip, hne, -, -, hcursor⟩
    · rw [hcursor]
    · obtain ⟨-, g, hline, -⟩ := Comment.gap_of_skip hskip hne
      rw [hcursor, hline]
      exact List.suffix_append g rest
  | ok found =>
    cases found with
    | none =>
      obtain ⟨rest, -, -, hcursor⟩ := scan_eq_none hfound
      rw [hcursor]
      exact List.nil_suffix
    | some t =>
      obtain ⟨rest, l, hskip, hne, -, -, -, hcursor⟩ := scan_eq_some hfound
      obtain ⟨-, g, hline, -⟩ := Comment.gap_of_skip hskip hne
      rw [hcursor, hline]
      exact ((Text.trimStart_suffix _).trans (List.drop_suffix _ rest)).trans
        (List.suffix_append g rest)

/-- No fault on a line has to do with the encoding, or with the end of the source. -/
lemma kind_of_scan_error {fault : Fault} (h : (scan r c).found = .error fault) :
    fault.kind ≠ .invalidEncoding ∧ fault.kind ≠ .unterminatedComment := by
  obtain ⟨g, line, -, -, hat⟩ := gap_of_scan_eq_error h
  cases hat with
  | strayClose _ => exact ⟨nofun, nofun⟩
  | @literal fault _ _ => rcases fault with quote | (_ | _ | _ | _) <;> exact ⟨nofun, nofun⟩
  | reservedName _ => exact ⟨nofun, nofun⟩
  | noToken _ => exact ⟨nofun, nofun⟩

/-- At the end of a line the end is found again. -/
lemma scan_scan_of_none (h : (scan r c).found = .ok none) :
    scan r (scan r c).cursor = ⟨.ok none, (scan r c).cursor, []⟩ := by
  obtain ⟨code, -, -, hcursor⟩ := scan_eq_none h
  rw [hcursor]
  unfold scan
  simp only [behindComments, Comment.skip_nil]
  rfl

/-- A fault is found again and the cursor stays, unless a closing mark was met on the way out of a
comment: then the comment has been left, but its text is still there. -/
lemma scan_scan_of_error {fault : Fault} (h : (scan r c).found = .error fault)
    (hstart : c.mode = .outside ∨ fault.kind ≠ .unmatchedCommentEnd) :
    (scan r (scan r c).cursor).found = .error fault ∧
      (scan r (scan r c).cursor).cursor = (scan r c).cursor := by
  rcases scan_eq_error h with ⟨form, line, -, rfl, hcursor⟩ |
    ⟨rest, hskip, hne, hdir, hread, hcursor⟩
  · -- the line and the mode are what they were
    have hmode : c.mode = .outside := hstart.resolve_right fun hkind => hkind rfl
    have hsame : (scan r c).cursor = c := by rw [hcursor, ← hmode]
    rw [hsame]
    exact ⟨h, hsame⟩
  · rw [hcursor]
    obtain ⟨hfound, hstay⟩ := scan_of_front (r := r) (c := { c with rest, mode := .outside }) rfl
      (Comment.front_of_skip hskip hne)
    rw [hfound, hstay, scanCode_of_read_error hne hdir hread]
    exact ⟨rfl, rfl⟩

/-- Rules that agree on the text behind the comments agree on the line. -/
lemma scan_congr_rules {r' : Rules}
    (h : ∀ rest, (Comment.skip c.mode c.rest).outcome = .code rest →
      scanCode r (c.behindComments rest) = scanCode r' (c.behindComments rest)) :
    scan r c = scan r' c := by
  unfold scan
  cases hskip : (Comment.skip c.mode c.rest).outcome with
  | stray form line => simp only [hskip]
  | code rest =>
    have hcode := h rest hskip
    simp only [behindComments] at hcode
    simp only [hskip, hcode]

@[simp] lemma lineNumber_scan (r : Rules) (c : Cursor) :
    (scan r c).cursor.lineNumber = c.lineNumber := by
  cases hskip : (Comment.skip c.mode c.rest).outcome with
  | stray form line => rw [cursor_scan_of_stray hskip]
  | code rest =>
    rw [(scan_of_code hskip).2]
    unfold scanCode
    split_ifs
    · rfl
    · rfl
    · split <;> rfl

end Cursor

end ScriptLexer
