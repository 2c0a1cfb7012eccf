import ScriptLexer.Proofs.Cursor.Rules
import ScriptLexer.Proofs.Session.Console
import ScriptLexer.Proofs.Session.Pulling

/-!
# What a run gives before it ends

A run that fails has no result but its failure, though it may have given tokens before.  The
*emission* of a run is both: the tokens up to its end, and the failure if it comes to one.  The
results of whole runs are read off it (`tokenizeStream_result`, `tokenizeLine_result`).

Two sessions that differ in their options are run side by side.  As long as nothing comes at which
the runs may part, they take the same steps.  So they have the same emission, or they give the same
tokens up to the first place at which they may part (`emission_mapOptions`).
-/

namespace ScriptLexer

/-- What a run gives. -/
structure Emission where
  /-- The tokens up to the end of the run. -/
  tokens : List Token
  /-- The failure to which the run comes. -/
  failure : Option Failure
deriving DecidableEq, Repr

namespace Emission

/-- The result of the run: a failure, or else the tokens. -/
def result (e : Emission) : Except Failure (List Token) :=
  match e.failure with
  | some failure => .error failure
  | none => .ok e.tokens

lemma result_eq_error_iff {e : Emission} {failure : Failure} :
    e.result = .error failure ↔ e.failure = some failure := by
  obtain ⟨tokens, failure' | failure'⟩ := e
  · simp [result]
  · simp [result]

/-- The emission with tokens in front. -/
def preceded (e : Emission) (ts : List Token) : Emission := { e with tokens := ts ++ e.tokens }

lemma preceded_nil (e : Emission) : e.preceded [] = e := rfl

lemma preceded_append (e : Emission) (ts ts' : List Token) :
    (e.preceded ts').preceded ts = e.preceded (ts ++ ts') := by
  simp only [preceded, List.append_assoc]

lemma result_preceded (e : Emission) (ts : List Token) :
    (e.preceded ts).result = e.result.map (ts ++ ·) := by
  unfold result preceded
  cases e.failure with
  | none => rfl
  | some failure => rfl

end Emission

/-- The answer to a call is one at which the runs may part. -/
def Parting.At (p : Parting) : Except Failure (Option Token) → Prop
  | .ok (some t) => p.token t
  | .error (.lexical e) => p.fault e.fault
  | _ => False

lemma Parting.at_iff {p : Parting} {answer : Except Failure (Option Token)} :
    p.At answer ↔ (∃ t, answer = .ok (some t) ∧ p.token t) ∨
      ∃ e, answer = .error (.lexical e) ∧ p.fault e.fault := by
  constructor
  · intro hat
    rcases answer with (e | _) | _ | t
    case error.lexical => exact Or.inr ⟨e, rfl, hat⟩
    case ok.some => exact Or.inl ⟨t, rfl, hat⟩
    all_goals exact hat.elim
  · rintro (⟨t, rfl, ht⟩ | ⟨e, rfl, he⟩)
    · exact ht
    · exact he

namespace Session

/-! ## Runs -/

/-- The two ways to run a session: to the end of the source, or to the end of the line. -/
inductive Way where
  | source | line
deriving DecidableEq, Repr

/-- One call of a run. -/
def ask (s : Session) : Way → Except Failure (Option Token) × Session
  | .source => (s.next.1.map some, s.next.2)
  | .line => s.nextFromLine

variable {way : Way} {s s' after : Session} {t : Token} {failure : Failure}

/-- A token of the source is the answer of a run to the end of the source. -/
lemma next_eq_ok_of_ask (h : s.ask .source = (.ok (some t), after)) : s.next = (.ok t, after) := by
  obtain ⟨hfound, hafter⟩ := Prod.mk.inj h
  obtain ⟨t', hnext, ht⟩ := exists_of_map_eq_ok hfound
  obtain rfl := Option.some.inj ht
  exact Prod.ext hnext hafter

lemma next_eq_error_of_ask (h : s.ask .source = (.error failure, after)) :
    s.next = (.error failure, after) := by
  obtain ⟨hfound, hafter⟩ := Prod.mk.inj h
  refine Prod.ext ?_ hafter
  cases hnext : s.next.1 with
  | error failure' =>
    rw [hnext] at hfound
    exact congrArg Except.error (Except.error.inj hfound)
  | ok t =>
    rw [hnext] at hfound
    cases hfound

lemma pending_of_ask (h : s.ask way = (.ok (some t), after)) (ht : t.kind ≠ .endOfFile) :
    after.pending < s.pending := by
  cases way with
  | source => exact pending_of_next (next_eq_ok_of_ask h) ht
  | line => exact pending_of_nextFromLine h

/-- Asks until the source or the line ends, or a call fails. -/
def emission (way : Way) (s : Session) : Emission :=
  match _ : s.ask way with
  | (.error failure, _) => { tokens := [], failure := some failure }
  | (.ok none, _) => { tokens := [], failure := none }
  | (.ok (some t), after) =>
    if _ : t.kind = .endOfFile then { tokens := [t], failure := none }
    else (emission way after).preceded [t]
termination_by s.pending
decreasing_by
  rename_i h ht
  exact pending_of_ask h ht

/-- One call, and then the others unless it ends the run. -/
lemma emission_eq (way : Way) (s : Session) :
    s.emission way =
      match s.ask way with
      | (.error failure, _) => { tokens := [], failure := some failure }
      | (.ok none, _) => { tokens := [], failure := none }
      | (.ok (some t), after) =>
        if t.kind = .endOfFile then { tokens := [t], failure := none }
        else (after.emission way).preceded [t] := by
  rw [emission]
  split <;> rename_i hask <;> rw [hask]
  rfl

lemma emission_of_error (h : s.ask way = (.error failure, after)) :
    s.emission way = { tokens := [], failure := some failure } := by
  rw [emission_eq, h]

lemma emission_of_none (h : s.ask way = (.ok none, after)) :
    s.emission way = { tokens := [], failure := none } := by
  rw [emission_eq, h]

lemma emission_of_end (h : s.ask way = (.ok (some t), after)) (ht : t.kind = .endOfFile) :
    s.emission way = { tokens := [t], failure := none } := by
  rw [emission_eq, h]
  exact if_pos ht

lemma emission_of_some (h : s.ask way = (.ok (some t), after)) (ht : t.kind ≠ .endOfFile) :
    s.emission way = (after.emission way).preceded [t] := by
  rw [emission_eq, h]
  exact if_neg ht

/-- All tokens of the source, or the failure, are read off the emission. -/
lemma collect_fst (s : Session) : s.collect.1 = (s.emission .source).result := by
  induction hsize : s.pending using Nat.strong_induction_on generalizing s with
  | _ size ih =>
    subst hsize
    rcases hnext : s.next with ⟨failure | t, after⟩
    · have hask : s.ask .source = (.error failure, after) := by
        rw [ask, hnext]
        rfl
      rw [collect_of_error hnext, emission_of_error hask]
      rfl
    · have hask : s.ask .source = (.ok (some t), after) := by
        rw [ask, hnext]
        rfl
      rw [collect_of_ok hnext]
      split_ifs with hend
      · rw [emission_of_end hask hend]
        rfl
      · rw [emission_of_some hask hend, Emission.result_preceded,
          ih after.pending (pending_of_next hnext hend) after rfl]
        rfl

/-- The tokens of the line, or the failure, are read off the emission. -/
lemma drainLine_fst (s : Session) : s.drainLine.1 = (s.emission .line).result := by
  induction hsize : s.pending using Nat.strong_induction_on generalizing s with
  | _ size ih =>
    subst hsize
    rw [drainLine_eq]
    rcases hask : s.ask .line with ⟨failure | _ | t, after⟩ <;>
      have hnext : s.nextFromLine = (_, after) := hask
    · rw [hnext, emission_of_error hask]
      rfl
    · rw [hnext, emission_of_none hask]
      rfl
    · have hend := Cursor.kind_ne_endOfFile (nextFromLine_eq_ok hnext).1
      rw [hnext, emission_of_some hask hend, Emission.result_preceded,
        ← ih after.pending (pending_of_nextFromLine hnext) after rfl]
      rfl

/-- What a new session gives: of the line that is handed over to it if there is one, else of its
stream. -/
def Setup.emission (setup : Setup) (line : Option Text) : Emission :=
  match create setup with
  | .error e => { tokens := [], failure := some (.lexical e) }
  | .ok s =>
    match line with
    | none => s.emission .source
    | some line =>
      match s.setLine line with
      | (.error failure, _) => { tokens := [], failure := some failure }
      | (.ok (), started) => started.emission .line

/-- The run on a stream. -/
theorem tokenizeStream_result (setup : Setup) :
    (tokenizeStream setup).result = (setup.emission none).result := by
  cases hcreate : create setup with
  | error e =>
    unfold tokenizeStream Setup.emission
    rw [hcreate]
    rfl
  | ok s =>
    rw [tokenizeStream_of_create hcreate, collect_fst, Setup.emission, hcreate]

/-- The run on a single line. -/
theorem tokenizeLine_result (line : Text) (options : Options) :
    (tokenizeLine line options).result =
      (({ options } : Setup).emission (some line)).result := by
  unfold tokenizeLine Setup.emission
  rw [create_eq_console]
  exact drainLine_fst _

/-! ## The beginning of a run -/

/-- The run of `s` gives the tokens `ts`, goes on, and the session is then `s'`. -/
inductive Emits (way : Way) : Session → List Token → Session → Prop
  /-- Nothing is asked for. -/
  | nil (s : Session) : Emits way s [] s
  /-- One token that does not end the run, then the others. -/
  | cons {s next after : Session} {t : Token} {ts : List Token} :
      s.ask way = (.ok (some t), next) → t.kind ≠ .endOfFile → Emits way next ts after →
        Emits way s (t :: ts) after

/-- The tokens come first, and then what is given afterwards. -/
lemma Emits.emission_eq {ts : List Token} (h : Emits way s ts after) :
    s.emission way = (after.emission way).preceded ts := by
  induction h with
  | nil s => exact (Emission.preceded_nil _).symm
  | cons hask hend _ ih => rw [emission_of_some hask hend, ih, Emission.preceded_append]; rfl

/-- A run that comes to a failure stops there. -/
lemma Emits.collect_eq {ts : List Token} {last : Session} (h : Emits .source s ts after)
    (hfail : after.next = (.error failure, last)) : s.collect = (.error failure, last) := by
  induction h with
  | nil s => rw [Session.collect_eq, hfail]
  | cons hask hend _ ih =>
    rw [Session.collect_eq, next_eq_ok_of_ask hask]
    simp only [if_neg hend, ih hfail]
    rfl

/-- Sessions that agree give the same to the end of the source. -/
lemma Agrees.emission_eq (h : Agrees s s') : s.emission .source = s'.emission .source := by
  induction hsize : s.pending using Nat.strong_induction_on generalizing s s' with
  | _ size ih =>
    subst hsize
    have hfound : (s'.ask .source).1 = (s.ask .source).1 := congrArg (Except.map some) h.found.symm
    rcases hask : s.ask .source with ⟨failure | _ | t, after⟩ <;>
      rcases hask' : s'.ask .source with ⟨found, after'⟩ <;>
      rw [hask, hask'] at hfound <;> obtain rfl : found = _ := hfound
    · rw [emission_of_error hask, emission_of_error hask']
    · rw [emission_of_none hask, emission_of_none hask']
    · by_cases hend : t.kind = .endOfFile
      · rw [emission_of_end hask hend, emission_of_end hask' hend]
      · have halike : Alike after after' := by
          rw [← (Prod.mk.inj hask).2, ← (Prod.mk.inj hask').2]
          exact h.after
        rw [emission_of_some hask hend, emission_of_some hask' hend,
          ih _ (pending_of_ask hask hend) halike.agrees rfl]

/-! ## Two runs side by side -/

/-- The session with its options changed. -/
def mapOptions (f : Options → Options) (s : Session) : Session := { s with options := f s.options }

/-- The setup with its options changed. -/
def Setup.mapOptions (f : Options → Options) (setup : Setup) : Setup :=
  { setup with options := f setup.options }

lemma create_mapOptions (f : Options → Options) (setup : Setup) :
    create (setup.mapOptions f) = (create setup).map (mapOptions f) := by
  unfold create
  simp only [Setup.mapOptions, Setup.sourceName]
  cases setup.stream with
  | none => rfl
  | some stream =>
    cases setup.mark.refusal? with
    | none => rfl
    | some refusal => rfl

lemma setLine_mapOptions (f : Options → Options) (s : Session) (line : Text) :
    (s.mapOptions f).setLine line = ((s.setLine line).1, (s.setLine line).2.mapOptions f) := by
  unfold setLine
  rw [show (s.mapOptions f).input = s.input from rfl]
  split_ifs
  · rfl
  · rfl

variable {f : Options → Options} {p : Parting}

lemma nextFromLine_mapOptions (h : s.rules.SameUpTo (s.mapOptions f).rules p)
    (hat : ¬ p.At s.nextFromLine.1) :
    (s.mapOptions f).nextFromLine = (s.nextFromLine.1, s.nextFromLine.2.mapOptions f) := by
  have hscan : (s.mapOptions f).cursor.scan (s.mapOptions f).rules = s.cursor.scan s.rules := by
    refine h.scan s.cursor (fun t hfound ht => hat ?_) fun fault hfound hfault => hat ?_
    · simp only [nextFromLine, hfound]
      exact ht
    · simp only [nextFromLine, hfound]
      exact hfault
  have hlocation : (s.mapOptions f).cursor.location (s.mapOptions f).rules =
      s.cursor.location s.rules := Cursor.location_of_sameUpTo h s.cursor
  unfold nextFromLine
  simp only [hscan, hlocation]
  cases (s.cursor.scan s.rules).found with
  | error fault => rfl
  | ok found => rfl

lemma nextFromStream_mapOptions {input : Input} (h : s.rules.SameUpTo (s.mapOptions f).rules p)
    (hat : ¬ p.At ((s.nextFromStream input).1.map some)) :
    (s.mapOptions f).nextFromStream input =
      ((s.nextFromStream input).1, (s.nextFromStream input).2.mapOptions f) := by
  have hpull : (s.mapOptions f).cursor.next (s.mapOptions f).rules input.marked
      input.stream.chunks = s.cursor.next s.rules input.marked input.stream.chunks := by
    refine Cursor.next_of_sameUpTo (c := s.cursor) h (fun t hfound ht => hat ?_)
      fun e hfound hfault => hat ?_
    · simp only [nextFromStream, hfound]
      exact ht
    · simp only [nextFromStream, hfound]
      exact hfault
  unfold nextFromStream
  simp only [hpull]
  rfl

/-- A call that gives nothing at which the runs may part gives and does the same. -/
lemma ask_mapOptions (h : s.rules.SameUpTo (s.mapOptions f).rules p) (hat : ¬ p.At (s.ask way).1) :
    (s.mapOptions f).ask way = ((s.ask way).1, (s.ask way).2.mapOptions f) := by
  cases way with
  | line => exact nextFromLine_mapOptions h hat
  | source =>
    suffices (s.mapOptions f).next = (s.next.1, s.next.2.mapOptions f) by
      simp only [ask, this]
    have hinput : (s.mapOptions f).input = s.input := rfl
    cases hs : s.input with
    | none =>
      rw [hs] at hinput
      rw [next_of_input_eq_none hs, next_of_input_eq_none hinput]
    | some input =>
      rw [hs] at hinput
      cases hclosed : input.stream.isClosed with
      | true =>
        -- only the line is asked, and its answer is passed on
        have hline : ¬ p.At s.nextFromLine.1 := by
          intro hline
          refine hat ?_
          rw [ask, next_of_closed hs hclosed]
          rcases hanswer : s.nextFromLine.1 with failure | _ | t
          · rw [hanswer] at hline
            exact hline
          · rw [hanswer] at hline
            cases hline
          · rw [hanswer] at hline
            exact hline
        rw [next_of_closed hs hclosed, next_of_closed hinput hclosed,
          nextFromLine_mapOptions h hline]
      | false =>
        have hopen : s.next = s.nextFromStream input := by
          simp only [next, hs, hclosed, Bool.false_eq_true, if_false]
        have hopen' : (s.mapOptions f).next = (s.mapOptions f).nextFromStream input := by
          simp only [next, hinput, hclosed, Bool.false_eq_true, if_false]
        rw [ask, hopen] at hat
        rw [hopen, hopen', nextFromStream_mapOptions h hat]

lemma Moves.mapOptions (h : Moves s s') (f : Options → Options) :
    Moves (s.mapOptions f) (s'.mapOptions f) := by
  obtain ⟨cursor, chunks, log, rfl⟩ := h
  exact ⟨cursor, chunks, log, rfl⟩

lemma moves_ask (way : Way) (s : Session) : Moves s (s.ask way).2 := by
  cases way with
  | source => exact moves_next s
  | line => exact moves_nextFromLine s

/-- **Two runs side by side.**  Runs under different options give the same if nothing comes at which
they may part.  Else they give the same tokens up to there. -/
theorem emission_mapOptions (h : s.rules.SameUpTo (s.mapOptions f).rules p) (way : Way) :
    ((s.mapOptions f).emission way = s.emission way ∧
        (∀ t ∈ (s.emission way).tokens, ¬ p.token t) ∧
        ∀ e, (s.emission way).failure = some (.lexical e) → ¬ p.fault e.fault) ∨
      ∃ ts mid, Emits way s ts mid ∧ Emits way (s.mapOptions f) ts (mid.mapOptions f) ∧
        (∀ t ∈ ts, ¬ p.token t) ∧ p.At (mid.ask way).1 := by
  -- every token that does not end the run takes something off the text that is left
  induction hsize : s.pending using Nat.strong_induction_on generalizing s with
  | _ size ih =>
    subst hsize
    by_cases hat : p.At (s.ask way).1
    · exact Or.inr ⟨[], s, Emits.nil _, Emits.nil _, by simp, hat⟩
    · have hask' := ask_mapOptions h hat
      have hmoves := moves_ask way s
      rcases hask : s.ask way with ⟨failure | _ | t, after⟩ <;> rw [hask] at hask' hat hmoves
      · left
        rw [emission_of_error hask, emission_of_error hask']
        refine ⟨rfl, by simp, ?_⟩
        rintro e hfailure
        obtain rfl := Option.some.inj hfailure
        exact hat
      · left
        rw [emission_of_none hask, emission_of_none hask']
        exact ⟨rfl, by simp, nofun⟩
      · by_cases hend : t.kind = .endOfFile
        · left
          rw [emission_of_end hask hend, emission_of_end hask' hend]
          refine ⟨rfl, ?_, nofun⟩
          rintro t' ht'
          obtain rfl := List.mem_singleton.1 ht'
          exact hat
        · -- a call changes the rules of neither session
          have hrules : after.rules.SameUpTo (after.mapOptions f).rules p := by
            rw [(hmoves.mapOptions f).rules_eq, hmoves.rules_eq]
            exact h
          rw [emission_of_some hask hend, emission_of_some hask' hend]
          rcases ih _ (pending_of_ask hask hend) hrules rfl with
            ⟨hsame, htokens, hfailure⟩ | ⟨ts, mid, hemits, hemits', htokens, hmid⟩
          · rw [hsame]
            exact Or.inl ⟨rfl, List.forall_mem_cons.2 ⟨hat, htokens⟩, hfailure⟩
          · exact Or.inr ⟨t :: ts, mid, Emits.cons hask hend hemits, Emits.cons hask' hend hemits',
              List.forall_mem_cons.2 ⟨hat, htokens⟩, hmid⟩

end Session

end ScriptLexer
