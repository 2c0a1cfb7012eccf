import ScriptLexer.Proofs.Session.Pulling
import ScriptLexer.Proofs.Session.Source

/-!
# What calls leave alone

Every call is made of four things that a session does: scanning the line at hand, asking for the
next token of the source, taking a line that is handed over, and recording what happened.  Each of
them changes the place, the reads to come and the log, and nothing else (`Moves`).  Only the calls
that close do more.

So a property of sessions that the four keep is kept by every other call, and by any number of calls
if closing keeps it too (`Kept.run`).  And if the tokens that two of them give have some property,
all tokens have it that a client is ever given (`Gives.of_mem_given`).
-/

namespace ScriptLexer.Session

/-- The calls that close the session. -/
def Call.closes : Call → Bool
  | .exit | .close | .drop => true
  | .next | .nextFromLine | .setLine _ | .tokenize | .iterate | .advance _ | .enter => false

/-! ## What is kept -/

/-- A property that a session keeps unless it is closed. -/
structure Kept (P : Session → Prop) : Prop where
  nextFromLine : ∀ {s}, P s → P s.nextFromLine.2
  next : ∀ {s}, P s → P s.next.2
  setLine : ∀ {s} (line : Text), P s → P (s.setLine line).2
  record : ∀ {s} (events : List Event), P s → P (s.record events)

namespace Kept

variable {P : Session → Prop}

/-- A property in which place, reads and log play no part. -/
lemma of_moves (h : ∀ {s s'}, Moves s s' → P s → P s') : Kept P where
  nextFromLine := h (moves_nextFromLine _)
  next := h (moves_next _)
  setLine line := h (moves_setLine _ line)
  record events := h (moves_record _ events)

lemma of_next (h : Kept P) {s after : Session} {found : Except Failure Token} (hs : P s)
    (hnext : s.next = (found, after)) : P after := by
  have hafter := h.next hs
  rwa [hnext] at hafter

lemma collect (h : Kept P) {s : Session} (hs : P s) : P s.collect.2 := by
  fun_induction Session.collect s with
  | case1 s failure after hnext => exact h.of_next hs hnext
  | case2 s t after hnext hend => exact h.of_next hs hnext
  | case3 s t after hnext hend ts last hlast ih =>
    have hrest := ih (h.of_next hs hnext)
    rwa [hlast] at hrest
  | case4 s t after hnext hend failure last hlast ih =>
    have hrest := ih (h.of_next hs hnext)
    rwa [hlast] at hrest

lemma tokenize (h : Kept P) {s : Session} (hs : P s) : P s.tokenize.2 := by
  have hcollect := h.collect hs
  unfold Session.tokenize
  split
  · rename_i hrest
    rw [hrest] at hcollect
    exact h.record _ hcollect
  · rename_i hrest
    rwa [hrest] at hcollect

lemma advance (h : Kept P) {c : Client} (hc : P c.session) (iterator : Nat) :
    P (c.advance iterator).2.session := by
  unfold Client.advance
  split
  · split
    · rename_i hnext
      exact h.of_next hc hnext
    · rename_i hnext
      exact h.of_next hc hnext
  · exact hc

/-- One call that does not close. -/
lemma answer (h : Kept P) {c : Client} (hc : P c.session) {call : Call}
    (hcall : call.closes = false) : P (c.answer call).2.session := by
  cases call with
  | next => exact h.next hc
  | nextFromLine => exact h.nextFromLine hc
  | setLine line => exact h.setLine line hc
  | tokenize => exact h.tokenize hc
  | iterate => exact hc
  | advance iterator => exact h.advance hc iterator
  | enter => exact hc
  | exit => simp [Call.closes] at hcall
  | close => simp [Call.closes] at hcall
  | drop => simp [Call.closes] at hcall

end Kept

/-- A call that closes does so at once, or does nothing because nothing is to be closed. -/
lemma answer_of_closes {c : Client} {call : Call} (hcall : call.closes = true) :
    (c.answer call).2.session = c.session.close ∨
      (c.answer call).2.session = c.session ∧ c.session.input.all (fun i => !i.owned) = true := by
  cases call with
  | exit => exact Or.inl rfl
  | close => exact Or.inl rfl
  | drop =>
    show c.session.drop = _ ∨ c.session.drop = _ ∧ _
    unfold drop
    cases c.session.input with
    | none => exact Or.inr ⟨rfl, rfl⟩
    | some input =>
      cases howned : input.owned with
      | true => exact Or.inl (if_pos howned)
      | false => exact Or.inr ⟨by simp [howned], by simp [howned]⟩
  | next => simp [Call.closes] at hcall
  | nextFromLine => simp [Call.closes] at hcall
  | setLine line => simp [Call.closes] at hcall
  | tokenize => simp [Call.closes] at hcall
  | iterate => simp [Call.closes] at hcall
  | advance iterator => simp [Call.closes] at hcall
  | enter => simp [Call.closes] at hcall

namespace Kept

variable {P : Session → Prop}

lemma answer_of_close (h : Kept P) (hclose : ∀ {s}, P s → P s.close) {c : Client}
    (hc : P c.session) (call : Call) : P (c.answer call).2.session := by
  cases hcall : call.closes with
  | false => exact h.answer hc hcall
  | true =>
    rcases answer_of_closes (c := c) hcall with hlast | ⟨hlast, -⟩
    · rw [hlast]
      exact hclose hc
    · rwa [hlast]

/-- Any calls, if closing keeps the property too. -/
lemma run (h : Kept P) (hclose : ∀ {s}, P s → P s.close) {c : Client} (hc : P c.session)
    (calls : List Call) : P (c.run calls).session := by
  induction calls generalizing c with
  | nil => exact hc
  | cons call calls ih => exact ih (h.answer_of_close hclose hc call)

end Kept

/-! ## The tokens that are given -/

/-- In a state with the property `P` every token that is given has the property `Q`. -/
structure Gives (P : Session → Prop) (Q : Token → Prop) : Prop where
  nextFromLine : ∀ {s t}, P s → s.nextFromLine.1 = .ok (some t) → Q t
  next : ∀ {s t}, P s → s.next.1 = .ok t → Q t

namespace Gives

variable {P : Session → Prop} {Q : Token → Prop}

lemma collect (h : Gives P Q) (hkept : Kept P) {s : Session} {ts : List Token} (hs : P s)
    (hts : s.collect.1 = .ok ts) : ∀ t ∈ ts, Q t := by
  have hpulls : Pulls s ts s.collect.2 := pulls_of_collect (Prod.ext hts rfl)
  generalize s.collect.2 = after at hpulls
  clear hts
  induction hpulls with
  | nil s => simp
  | @cons s next after t ts hnext _ ih =>
    exact List.forall_mem_cons.2 ⟨h.next hs (by rw [hnext]), ih (hkept.of_next hs hnext)⟩

lemma drainLine (h : Gives P Q) (hkept : Kept P) {s after : Session} {ts : List Token} (hs : P s)
    (hts : s.drainLine = (.ok ts, after)) : ∀ t ∈ ts, Q t := by
  have hreads : Reads s ts after := drainLine_eq_ok_iff.1 hts
  clear hts
  induction hreads with
  | done _ => simp
  | @token s next after t ts hnext _ ih =>
    have hnext' := hkept.nextFromLine hs
    rw [hnext] at hnext'
    exact List.forall_mem_cons.2 ⟨h.nextFromLine hs (by rw [hnext]), ih hnext'⟩

/-- One call of any kind. -/
lemma answer (h : Gives P Q) (hkept : Kept P) {c : Client} (hc : P c.session) {call : Call}
    {reply : Reply} (hreply : (c.answer call).1 = .ok reply) : ∀ t ∈ reply.given, Q t := by
  have hidle : ∀ {reply' : Reply}, (.ok reply' : Except Failure Reply) = .ok reply →
      reply'.given = [] → ∀ t ∈ reply.given, Q t := by
    rintro reply' ⟨⟩ hnone t ht
    simp [hnone] at ht
  cases call with
  | next =>
    change c.session.next.1.map Reply.token = .ok reply at hreply
    obtain ⟨t, ht, rfl⟩ := exists_of_map_eq_ok hreply
    exact List.forall_mem_singleton.2 (h.next hc ht)
  | nextFromLine =>
    change c.session.nextFromLine.1.map (fun t => t.elim .nothing .token) = .ok reply at hreply
    obtain ⟨found, hfound, rfl⟩ := exists_of_map_eq_ok hreply
    cases found with
    | none => exact hidle rfl rfl
    | some t => exact List.forall_mem_singleton.2 (h.nextFromLine hc hfound)
  | tokenize =>
    change c.session.tokenize.1.map Reply.tokens = .ok reply at hreply
    obtain ⟨ts, hts, rfl⟩ := exists_of_map_eq_ok hreply
    exact h.collect hkept hc ((tokenize_fst c.session).symm.trans hts)
  | advance iterator =>
    change (c.advance iterator).1 = .ok reply at hreply
    unfold Client.advance at hreply
    split at hreply
    · split at hreply
      · rename_i t session hnext
        obtain rfl := Except.ok.inj hreply
        exact List.forall_mem_singleton.2 (h.next hc (by rw [hnext]))
      · simp at hreply
    · exact hidle hreply rfl
  | setLine line =>
    change (c.session.setLine line).1.map (fun _ => Reply.nothing) = .ok reply at hreply
    obtain ⟨_, -, hnothing⟩ := exists_of_map_eq_ok hreply
    exact hidle (congrArg _ hnothing) rfl
  | iterate => exact hidle hreply rfl
  | enter => exact hidle hreply rfl
  | exit => exact hidle hreply rfl
  | close => exact hidle hreply rfl
  | drop => exact hidle hreply rfl

/-- Every token that a client is ever given. -/
lemma of_mem_given (h : Gives P Q) (hkept : Kept P) (hclose : ∀ {s}, P s → P s.close) {c : Client}
    (hc : P c.session) (calls : List Call) : ∀ t ∈ given (c.answers calls), Q t := by
  induction calls generalizing c with
  | nil => exact fun t ht => absurd ht List.not_mem_nil
  | cons call calls ih =>
    intro t ht
    rcases List.mem_append.1 ht with hfirst | hlater
    · cases hreply : (c.answer call).1 with
      | error failure => simp [hreply] at hfirst
      | ok reply =>
        simp only [hreply] at hfirst
        exact h.answer hkept hc hreply t hfirst
    · exact ih (hkept.answer_of_close hclose hc call) t hlater

end Gives

end ScriptLexer.Session
