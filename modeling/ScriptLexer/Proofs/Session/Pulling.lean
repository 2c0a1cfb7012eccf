import ScriptLexer.Proofs.Session.Ahead
import ScriptLexer.Session.Call

/-!
# Ways of pulling tokens

A client may take the tokens of a stream one by one, line by line, all at once, or through any
number of iterators, and mix these ways.  It always gets the tokens that a client gets who does
nothing but ask for the next one.

`Pulls s ts s'` is the run of such a client.  One call of any kind gives the tokens of some run, and
leaves a session that agrees with the end of this run; it need not be the same session, since a call
for a token of the line may have passed over what follows the last one.  The theorem follows by
induction on the calls.
-/

namespace ScriptLexer.Session

/-! ## Asking for the next token again and again -/

/-- Asked again and again for the next token, `s` gives the tokens `ts` and becomes `s'`. -/
inductive Pulls : Session → List Token → Session → Prop
  /-- Nothing is asked for. -/
  | nil (s : Session) : Pulls s [] s
  /-- One token, then the others. -/
  | cons {s next after : Session} {t : Token} {ts : List Token} :
      s.next = (.ok t, next) → Pulls next ts after → Pulls s (t :: ts) after

namespace Pulls

variable {s s' after : Session} {ts : List Token}

lemma single {t : Token} (h : s.next = (.ok t, after)) : Pulls s [t] after := cons h (nil after)

lemma append {ts' : List Token} {last : Session} (h : Pulls s ts after)
    (h' : Pulls after ts' last) : Pulls s (ts ++ ts') last := by
  induction h with
  | nil s => exact h'
  | cons hnext _ ih => exact cons hnext (ih h')

/-- Sessions that agree give the same tokens and agree again afterwards. -/
lemma of_agrees (h : Pulls s ts after) (hagrees : Agrees s s') :
    ∃ after', Pulls s' ts after' ∧ Agrees after after' := by
  induction h generalizing s' with
  | nil s => exact ⟨s', nil s', hagrees⟩
  | @cons s next after t ts hnext _ ih =>
    have hfound : s'.next.1 = .ok t := by rw [← hagrees.found, hnext]
    have hafter : Alike next s'.next.2 := by
      have halike := hagrees.after
      rw [hnext] at halike
      exact halike
    obtain ⟨after', hpulls, hlast⟩ := ih hafter.agrees
    exact ⟨after', cons (Prod.ext hfound rfl) hpulls, hlast⟩

end Pulls

/-- Reading all remaining tokens is such a run. -/
lemma pulls_of_collect {s after : Session} {ts : List Token} (h : s.collect = (.ok ts, after)) :
    Pulls s ts after := by
  fun_induction collect s generalizing ts after with
  | case1 => simp at h
  | case2 s t next hnext hend =>
    simp only [Prod.mk.injEq, Except.ok.injEq] at h
    obtain ⟨rfl, rfl⟩ := h
    exact Pulls.single hnext
  | case3 s t next hnext hend ts' last hlast ih =>
    simp only [Prod.mk.injEq, Except.ok.injEq] at h
    obtain ⟨rfl, rfl⟩ := h
    exact Pulls.cons hnext (ih hlast)
  | case4 => simp at h

lemma collect_of_tokenize {s after : Session} {ts : List Token}
    (h : s.tokenize = (.ok ts, after)) :
    ∃ last, s.collect = (.ok ts, last) ∧ Alike last after := by
  unfold tokenize at h
  split at h
  · rename_i ts' last hcollect
    simp only [Prod.mk.injEq, Except.ok.injEq] at h
    obtain ⟨rfl, rfl⟩ := h
    exact ⟨last, hcollect, alike_record last _⟩
  · simp at h

/-! ## A stream is never lost -/

lemma isSome_input_nextFromLine {s : Session} (h : s.input.isSome = true) :
    s.nextFromLine.2.input.isSome = true :=
  (moves_nextFromLine s).isSome_input.trans h

lemma isSome_input_next {s : Session} (h : s.input.isSome = true) :
    s.next.2.input.isSome = true :=
  (moves_next s).isSome_input.trans h

lemma Pulls.isSome_input {s after : Session} {ts : List Token} (h : Pulls s ts after)
    (hstream : s.input.isSome = true) : after.input.isSome = true := by
  induction h with
  | nil s => exact hstream
  | @cons s next after t ts hnext _ ih =>
    have hstep := isSome_input_next hstream
    rw [hnext] at hstep
    exact ih hstep

/-! ## Calls that take tokens -/

lemma exists_of_map_eq_ok {ε α β : Type} {f : α → β} {x : Except ε α} {b : β}
    (h : x.map f = .ok b) : ∃ a, x = .ok a ∧ f a = b := by
  cases x with
  | error e => cases h
  | ok a => exact ⟨a, rfl, Except.ok.inj h⟩

/-- The calls that take tokens, or prepare for it, and do nothing else. -/
def Call.takes : Call → Bool
  | .next | .nextFromLine | .tokenize | .iterate | .advance _ => true
  | .setLine _ | .enter | .exit | .close | .drop => false

/-- The tokens in a reply. -/
def Reply.given : Reply → List Token
  | .token t => [t]
  | .tokens ts => ts
  | .nothing | .self | .exhausted => []

/-- The tokens in the replies to some calls, in the order of the calls. -/
def given (answers : List (Except Failure Reply × Client)) : List Token :=
  answers.flatMap fun answer =>
    match answer.1 with
    | .ok reply => reply.given
    | .error _ => []

/-- What one call gives is what some calls for the next token give, and the session that it leaves
agrees with the one that these leave. -/
def Client.Step (c : Client) (ts : List Token) (c' : Client) : Prop :=
  c'.session.input.isSome = true ∧ ∃ after, Pulls c.session ts after ∧ Agrees after c'.session

namespace Client

variable {c : Client}

lemma step_idle (hstream : c.session.input.isSome = true) {iterators : List Bool} :
    c.Step [] { c with iterators } :=
  ⟨hstream, c.session, Pulls.nil _, (Alike.refl _).agrees⟩

lemma step_next (hstream : c.session.input.isSome = true) {t : Token} {iterators : List Bool}
    (h : c.session.next.1 = .ok t) : c.Step [t] { session := c.session.next.2, iterators } := by
  refine ⟨isSome_input_next hstream, c.session.next.2, ?_, (Alike.refl _).agrees⟩
  exact Pulls.single (Prod.ext h rfl)

lemma step_nextFromLine (hstream : c.session.input.isSome = true) {found : Option Token}
    (h : c.session.nextFromLine.1 = .ok found) :
    c.Step found.toList { c with session := c.session.nextFromLine.2 } := by
  refine ⟨isSome_input_nextFromLine hstream, ?_⟩
  have hline : c.session.nextFromLine = (.ok found, c.session.nextFromLine.2) := Prod.ext h rfl
  cases found with
  | none =>
    exact ⟨c.session, Pulls.nil _, agrees_of_nextFromLine_none hstream hline⟩
  | some t =>
    obtain ⟨hfound, hafter⟩ := next_of_nextFromLine_some hstream hline
    exact ⟨c.session.next.2, Pulls.single (Prod.ext hfound rfl), hafter.agrees⟩

lemma step_tokenize (hstream : c.session.input.isSome = true) {ts : List Token}
    (h : c.session.tokenize.1 = .ok ts) :
    c.Step ts { c with session := c.session.tokenize.2 } := by
  obtain ⟨last, hcollect, hlast⟩ := collect_of_tokenize (Prod.ext h rfl)
  have hpulls := pulls_of_collect hcollect
  have hinput := hlast.moves.isSome_input.trans (hpulls.isSome_input hstream)
  exact ⟨hinput, last, hpulls, hlast.agrees⟩

/-- One step of an iterator. -/
lemma step_advance {iterator : Nat} {reply : Reply} (hstream : c.session.input.isSome = true)
    (h : (c.advance iterator).1 = .ok reply) : c.Step reply.given (c.advance iterator).2 := by
  unfold advance at h ⊢
  split at h
  · split at h
    · rename_i t session hnext
      obtain rfl := Except.ok.inj h
      have hfound : c.session.next.1 = .ok t := by rw [hnext]
      have hstep : c.Step [t] ⟨c.session.next.2,
          c.iterators.set iterator (decide (t.kind = .endOfFile))⟩ := step_next hstream hfound
      rw [hnext] at hstep
      exact hstep
    · simp at h
  · obtain rfl := Except.ok.inj h
    exact step_idle hstream

/-- One call of any kind. -/
lemma step_answer {call : Call} {reply : Reply} (hstream : c.session.input.isSome = true)
    (hcall : call.takes = true) (h : (c.answer call).1 = .ok reply) :
    c.Step reply.given (c.answer call).2 := by
  cases call with
  | next =>
    change c.session.next.1.map Reply.token = .ok reply at h
    obtain ⟨t, ht, rfl⟩ := exists_of_map_eq_ok h
    exact step_next hstream ht
  | nextFromLine =>
    change c.session.nextFromLine.1.map (fun t => t.elim .nothing .token) = .ok reply at h
    obtain ⟨found, hfound, rfl⟩ := exists_of_map_eq_ok h
    have hstep := step_nextFromLine hstream hfound
    cases found with
    | none => exact hstep
    | some t => exact hstep
  | tokenize =>
    change c.session.tokenize.1.map Reply.tokens = .ok reply at h
    obtain ⟨ts, hts, rfl⟩ := exists_of_map_eq_ok h
    exact step_tokenize hstream hts
  | iterate =>
    obtain rfl := Except.ok.inj h
    exact step_idle hstream
  | advance iterator => exact step_advance hstream h
  | setLine line => simp [Call.takes] at hcall
  | enter => simp [Call.takes] at hcall
  | exit => simp [Call.takes] at hcall
  | close => simp [Call.takes] at hcall
  | drop => simp [Call.takes] at hcall

/-- Calls of any kind that do not fail. -/
lemma pulls_of_answers {calls : List Call} {s : Session}
    (hstream : c.session.input.isSome = true) (hcalls : ∀ call ∈ calls, call.takes = true)
    (hok : ∀ answer ∈ c.answers calls, answer.1.isOk = true) (hagrees : Agrees c.session s) :
    ∃ after, Pulls s (given (c.answers calls)) after := by
  induction calls generalizing c s with
  | nil => exact ⟨s, Pulls.nil s⟩
  | cons call calls ih =>
    obtain ⟨hcall, hcalls⟩ := List.forall_mem_cons.1 hcalls
    obtain ⟨hfirst, hok⟩ := List.forall_mem_cons.1 hok
    cases hreply : (c.answer call).1 with
    | error failure => simp [hreply, Except.isOk, Except.toBool] at hfirst
    | ok reply =>
      obtain ⟨hstream', after, hpulls, hafter⟩ := step_answer hstream hcall hreply
      obtain ⟨after', hpulls', hsame⟩ := hpulls.of_agrees hagrees
      obtain ⟨last, hrest⟩ := ih hstream' hcalls hok (hafter.symm.trans hsame)
      refine ⟨last, ?_⟩
      have hgiven : given (c.answers (call :: calls)) =
          reply.given ++ given ((c.answer call).2.answers calls) := by
        simp only [given, answers, List.flatMap_cons, hreply]
      rw [hgiven]
      exact hpulls'.append hrest

/-- A run of calls for the next token, as a client makes it. -/
lemma answers_of_pulls {s after : Session} {ts : List Token} (h : Pulls s ts after)
    (iterators : List Bool) :
    ((Client.mk s iterators).answers (List.replicate ts.length .next)).map (fun a => a.1) =
      ts.map fun t => .ok (.token t) := by
  induction h with
  | nil s => rfl
  | @cons s next after t ts hnext _ ih =>
    have hanswer : (Client.mk s iterators).answer .next = (.ok (.token t), ⟨next, iterators⟩) := by
      simp only [answer, hnext]
      rfl
    simp only [List.length_cons, List.replicate_succ, answers, hanswer, List.map_cons, ih]

end Client

/-- **All ways of pulling tokens give the same tokens.**  Let a client of a session with a stream make
any calls that take tokens, and let none of them fail.  Then the tokens that it gets, in the order of
the calls, are those that it would have got from as many calls for the next token and nothing else:
none is lost, repeated or changed.  This holds for every state of the session, a new one included,
and also behind the token that ends the source. -/
theorem given_eq_nexts {s : Session} {calls : List Call} (hstream : s.input.isSome = true)
    (hcalls : ∀ call ∈ calls, call.takes = true)
    (hok : ∀ answer ∈ (Client.mk s []).answers calls, answer.1.isOk = true) :
    let tokens := given ((Client.mk s []).answers calls)
    ((Client.mk s []).answers (List.replicate tokens.length .next)).map (fun answer => answer.1) =
      tokens.map fun t => .ok (.token t) := by
  obtain ⟨after, hpulls⟩ :=
    Client.pulls_of_answers (c := Client.mk s []) hstream hcalls hok (Alike.refl s).agrees
  exact Client.answers_of_pulls hpulls []

/-- Two iterators, a line that ends in a comment, a directive, and the end of the source met twice. -/
theorem given_eq_nexts_mixed :
    ∃ (s : Session) (calls : List Call), s.input.isSome = true ∧
      (∀ call ∈ calls, call.takes = true) ∧
      (∀ answer ∈ (Client.mk s []).answers calls, answer.1.isOk = true) ∧
      (given ((Client.mk s []).answers calls)).map (fun t => t.text) =
        ["a".toList, "b".toList, "d".toList, "\x7d".toList, endText, endText] ∧
      ((Client.mk s []).answers (List.replicate 6 .next)).map (fun answer => answer.1) =
        (given ((Client.mk s []).answers calls)).map fun t => .ok (.token t) := by
  let stream := Stream.ofText "a b /* c\n*/ d # e\n\x7d".toList
  let s : Session :=
    { file := "f".toList
      options := {}
      table := Table.standard
      input := some { stream, owned := false, marked := true } }
  let calls : List Call :=
    [.nextFromLine, .next, .nextFromLine, .nextFromLine, .iterate, .advance 0, .nextFromLine,
      .iterate, .advance 1, .advance 0, .tokenize, .advance 0]
  have hcalls : ∀ call ∈ calls, call.takes = true := by decide
  have hok : ∀ answer ∈ (Client.mk s []).answers calls, answer.1.isOk = true := by decide +kernel
  have htexts : (given ((Client.mk s []).answers calls)).map (fun t => t.text) =
      ["a".toList, "b".toList, "d".toList, "\x7d".toList, endText, endText] := by decide +kernel
  have hlength : (given ((Client.mk s []).answers calls)).length = 6 := by
    simpa using congrArg List.length htexts
  have hnexts := given_eq_nexts rfl hcalls hok
  simp only [hlength] at hnexts
  exact ⟨s, calls, rfl, hcalls, hok, htexts, hnexts⟩

end ScriptLexer.Session
