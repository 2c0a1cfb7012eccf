import ScriptLexer.Proofs.Session.Emission

/-!
# Switching off the caseless comparisons

With the caseless comparisons switched off the table has fewer operators, and the longest match may
be another one.  But a match that is none of these comparisons is the longest also without them.  So
the two settings read the same until a caseless comparison is found (`Rules.sameUpTo_caseless`), and
this holds of whole runs, on a stream or on a single line (`emission_before_caseless`).
-/

namespace ScriptLexer

/-- Without the caseless comparisons the same lexeme or fault is read, wherever none of them is read
with them. -/
lemma Lexeme.read_false {table : Table} {line : Text}
    (h : ∀ l, read table true line = .ok l → l.kind.comparesCaseless = false) :
    read table false line = read table true line := by
  unfold read at h ⊢
  cases hliteral : Literal.read? line with
  | some literal => cases literal <;> rfl
  | none =>
    simp only [hliteral] at h ⊢
    split_ifs at h ⊢ with hnumber hname
    · rfl
    · rfl
    · rw [Symbol.read?_false]
      intro l hl
      refine h l ?_
      rw [hl]

/-- The options with the caseless comparisons switched on or off. -/
def Options.withCaseless (o : Options) (caseless : Bool) : Options :=
  { o with caselessOperators := caseless }

/-- Runs with and without the caseless comparisons part at such a comparison only. -/
def Parting.caseless : Parting where
  token t := t.kind.comparesCaseless = true
  fault _ := False

namespace Cursor

variable {r : Rules} {c : Cursor}

lemma scanCode_withoutCaseless
    (h : ∀ t, (scanCode r c).found = .ok (some t) → t.kind.comparesCaseless = false) :
    scanCode { r with options := r.options.withCaseless false } c = scanCode r c := by
  symm
  refine scanCode_congr (by rfl) (by rfl) fun hne hdir => ?_
  show Lexeme.read r.table r.options.caselessOperators c.rest = Lexeme.read r.table false c.rest
  cases hcase : r.options.caselessOperators with
  | false => rfl
  | true =>
    refine (Lexeme.read_false fun l hl => ?_).symm
    rw [← hcase] at hl
    exact h (c.token r l) (by rw [scanCode_of_read hne hdir hl])

end Cursor

/-- Until a caseless comparison is found, a line is scanned in the same way without them. -/
lemma Rules.sameUpTo_caseless (r : Rules) :
    r.SameUpTo { r with options := r.options.withCaseless false } .caseless where
  file := rfl
  streaming := rfl
  scan := by
    intro c htoken _
    refine Cursor.scan_congr_rules fun rest hskip => Cursor.scanCode_withoutCaseless ?_
    intro t ht
    rw [← (Cursor.scan_of_code hskip).1] at ht
    exact Bool.eq_false_iff.2 (htoken t ht)

namespace Session

/-- A token that a run is given is the first one of its emission. -/
lemma exists_tokens_of_ask {way : Way} {s : Session} {t : Token}
    (h : (s.ask way).1 = .ok (some t)) : ∃ ts, (s.emission way).tokens = t :: ts := by
  have hask : s.ask way = (.ok (some t), (s.ask way).2) := Prod.ext h rfl
  by_cases hend : t.kind = .endOfFile
  · exact ⟨[], by rw [emission_of_end hask hend]⟩
  · exact ⟨((s.ask way).2.emission way).tokens, by rw [emission_of_some hask hend]; rfl⟩

/-- Up to the first caseless comparison the run of a session is the same without them. -/
lemma emission_withoutCaseless (s : Session) (way : Way) :
    let off := (s.mapOptions fun o => o.withCaseless false).emission way
    (s.emission way).tokens.takeWhile (fun t => !t.kind.comparesCaseless) <+: off.tokens ∧
      ((∀ t ∈ (s.emission way).tokens, t.kind.comparesCaseless = false) →
        off = s.emission way) := by
  intro off
  have hrules : s.rules.SameUpTo (s.mapOptions fun o => o.withCaseless false).rules .caseless :=
    s.rules.sameUpTo_caseless
  rcases emission_mapOptions hrules way with
    ⟨hsame, -, -⟩ | ⟨ts, mid, hemits, hemits', htokens, hat⟩
  · rw [← hsame]
    exact ⟨List.takeWhile_prefix _, fun _ => rfl⟩
  · -- the runs part at a caseless comparison
    obtain ⟨t, hask, ht⟩ : ∃ t, (mid.ask way).1 = .ok (some t) ∧ t.kind.comparesCaseless = true :=
      (Parting.at_iff.1 hat).resolve_right fun ⟨e, _, he⟩ => he
    obtain ⟨ts', hmid⟩ := exists_tokens_of_ask hask
    have hon : (s.emission way).tokens = ts ++ t :: ts' := by
      rw [hemits.emission_eq, ← hmid]
      rfl
    have hoff : ts <+: off.tokens := by
      unfold off
      rw [hemits'.emission_eq]
      exact List.prefix_append _ _
    rw [hon]
    constructor
    · have hbefore : ∀ t' ∈ ts, (!t'.kind.comparesCaseless) = true := by
        intro t' ht'
        rw [Bool.not_eq_true']
        exact Bool.eq_false_iff.2 (htokens t' ht')
      rw [List.takeWhile_append_of_pos hbefore, List.takeWhile_cons_of_neg (by simp [ht]),
        List.append_nil]
      exact hoff
    · intro hnone
      rw [hnone t (by simp)] at ht
      cases ht

/-! ## New sessions -/

/-- The setup with the caseless comparisons switched on or off. -/
def Setup.withCaseless (setup : Setup) (caseless : Bool) : Setup :=
  setup.mapOptions fun o => o.withCaseless caseless

/-- **Switching off the caseless comparisons changes nothing before their first use.**  Take any
table and any options, a stream or a single line, and run a session on it with the caseless
comparisons and one without.  The tokens that the first run gives before its first caseless
comparison are the first tokens of the second run.  If the first run gives no caseless comparison,
the second gives the same tokens and comes to the same end, with the same failure if there is
one. -/
theorem emission_before_caseless (setup : Setup) (line : Option Text) :
    let on := (setup.withCaseless true).emission line
    let off := (setup.withCaseless false).emission line
    on.tokens.takeWhile (fun t => !t.kind.comparesCaseless) <+: off.tokens ∧
      ((∀ t ∈ on.tokens, t.kind.comparesCaseless = false) → off = on) := by
  intro on off
  have hcreate : create (setup.withCaseless false) =
      (create (setup.withCaseless true)).map (mapOptions fun o => o.withCaseless false) :=
    create_mapOptions (fun o => o.withCaseless false) (setup.withCaseless true)
  unfold on off Setup.emission
  rw [hcreate]
  cases create (setup.withCaseless true) with
  | error e => exact ⟨by simp, fun _ => rfl⟩
  | ok s =>
    cases line with
    | none => exact emission_withoutCaseless s .source
    | some line =>
      simp only [Except.map]
      rw [setLine_mapOptions]
      rcases s.setLine line with ⟨failure | _, started⟩
      · exact ⟨by simp, fun _ => rfl⟩
      · exact emission_withoutCaseless started .line

/-- A stream on which the runs part at a caseless comparison, and both fail behind it; and a line
without such a comparison, on which both fail in the same way. -/
theorem emission_before_caseless_fault :
    ∃ (setup : Setup) (line : Text),
      let on := (setup.withCaseless true).emission
      let off := (setup.withCaseless false).emission
      let console (caseless : Bool) : Setup := ({} : Setup).withCaseless caseless
      (on none).tokens.map (fun t => t.text) =
        ["a".toList, "!=".toList, "b".toList, "!=i=".toList, "c".toList] ∧
      (off none).tokens.map (fun t => t.text) =
        ["a".toList, "!=".toList, "b".toList, "!=".toList, "i".toList, "=".toList, "c".toList] ∧
      (on none).tokens.take 3 <+: (off none).tokens ∧
      ((console true).emission (some line)).failure =
        some (.lexical ⟨.reservedName "__z".toList, none⟩) ∧
      (console false).emission (some line) = (console true).emission (some line) := by
  let setup : Setup :=
    { stream := some (Stream.ofText "a != b /* =i= */\n!=i= c __y".toList), mark := .mark .utf8 }
  let line : Text := "x != \"=i=\" __z".toList
  have hfirst := (emission_before_caseless setup none).1
  have hsame := (emission_before_caseless {} (some line)).2
  refine ⟨setup, line, by decide +kernel, by decide +kernel, ?_, by decide +kernel, ?_⟩
  · have htake : ((setup.withCaseless true).emission none).tokens.takeWhile
        (fun t => !t.kind.comparesCaseless) =
        ((setup.withCaseless true).emission none).tokens.take 3 := by decide +kernel
    rw [← htake]
    exact hfirst
  · refine hsame ?_
    decide +kernel

end Session

end ScriptLexer
