import Mathlib.Data.List.Forall2
import ScriptLexer.CommandLine.Piped
import ScriptLexer.Proofs.Text.Ansi

/-!
# Messages one after the other

Messages are written up to the first that cannot be.  If there is none, all of them stand in the stream,
as `Shell.Shown` says (`Shell.shown_of_writeAll`).  Otherwise those in front of it do, and then what has
got into the stream of the one that failed (`Shell.writeAll_eq_some`).
-/

namespace ScriptLexer.CommandLine.Shell

/-- How messages stand in a stream: each with a line feed behind it, some of the control sequences in it
left out. -/
def Shown (messages : List Text) (text : Text) : Prop :=
  ∃ shown, List.Forall₂ Ansi.Leaves messages shown ∧ text = shown.flatMap (· ++ ['\n'])

variable {shell : Shell} {channel : Channel} {earlier : Nat} {message text : Text}
  {messages : List Text}

namespace Shown

lemma nil : Shown [] [] := ⟨[], .nil, rfl⟩

lemma cons {shown : Text} (hmessage : Ansi.Leaves message shown) (h : Shown messages text) :
    Shown (message :: messages) (shown ++ ['\n'] ++ text) := by
  obtain ⟨others, hothers, rfl⟩ := h
  exact ⟨shown :: others, .cons hmessage hothers, rfl⟩

/-- Messages without an escape character stand in the stream as they are. -/
lemma eq_of_notMem (h : Shown messages text) (hescape : ∀ message ∈ messages, '\x1b' ∉ message) :
    text = messages.flatMap (· ++ ['\n']) := by
  obtain ⟨shown, hshown, rfl⟩ := h
  induction hshown with
  | nil => rfl
  | cons hmessage hothers ih =>
    rw [List.forall_mem_cons] at hescape
    rw [List.flatMap_cons, List.flatMap_cons, hmessage.eq_of_notMem hescape.1, ih hescape.2]

/-- A line feed is part of no control sequence. -/
lemma count_lineFeed (h : Shown messages text) :
    text.count '\n' = messages.length + messages.flatten.count '\n' := by
  obtain ⟨shown, hshown, rfl⟩ := h
  induction hshown with
  | nil => rfl
  | cons hmessage hothers ih =>
    rw [List.flatMap_cons, List.count_append, ih, List.count_append, List.count_singleton_self,
      hmessage.count_eq (by decide) (by decide), List.length_cons, List.flatten_cons,
      List.count_append]
    omega

end Shown

/-! ## Writing -/

lemma writeAll_cons_of_none (h : (shell.write channel earlier message).fault = none) :
    shell.writeAll channel earlier (message :: messages) =
      { text := (shell.write channel earlier message).text ++
          (shell.writeAll channel (earlier + 1) messages).text
        fault := (shell.writeAll channel (earlier + 1) messages).fault } := by
  simp only [writeAll, h]

lemma writeAll_cons_of_some {fault : WriteFault}
    (h : (shell.write channel earlier message).fault = some fault) :
    shell.writeAll channel earlier (message :: messages) = shell.write channel earlier message := by
  simp only [writeAll, h]

lemma writeAll_singleton : shell.writeAll channel earlier [message] = shell.write channel earlier message := by
  cases hfirst : (shell.write channel earlier message).fault with
  | some fault => exact writeAll_cons_of_some hfirst
  | none =>
    rw [writeAll_cons_of_none hfirst]
    simp only [writeAll, List.append_nil, ← hfirst]

/-- If all messages can be written, all of them stand in the stream. -/
lemma shown_of_writeAll (hshell : shell.Documented)
    (h : (shell.writeAll channel earlier messages).fault = none) :
    Shown messages (shell.writeAll channel earlier messages).text := by
  induction messages generalizing earlier with
  | nil => exact .nil
  | cons message messages ih =>
    cases hfirst : (shell.write channel earlier message).fault with
    | some fault =>
      rw [writeAll_cons_of_some hfirst, hfirst] at h
      cases h
    | none =>
      rw [writeAll_cons_of_none hfirst] at h ⊢
      obtain ⟨shown, hshown, htext⟩ := hshell.written hfirst
      dsimp only
      rw [htext]
      exact .cons hshown (ih h)

/-- The message that cannot be written is behind messages that can, and none is tried behind it. -/
lemma writeAll_eq_some {fault : WriteFault}
    (h : (shell.writeAll channel earlier messages).fault = some fault) :
    ∃ done message todo, messages = done ++ message :: todo ∧
      (shell.writeAll channel earlier done).fault = none ∧
      (shell.write channel (earlier + done.length) message).fault = some fault ∧
      (shell.writeAll channel earlier messages).text =
        (shell.writeAll channel earlier done).text ++
          (shell.write channel (earlier + done.length) message).text := by
  induction messages generalizing earlier with
  | nil => cases h
  | cons message messages ih =>
    cases hfirst : (shell.write channel earlier message).fault with
    | some fault' =>
      rw [writeAll_cons_of_some hfirst] at h ⊢
      exact ⟨[], message, messages, rfl, rfl, h, rfl⟩
    | none =>
      rw [writeAll_cons_of_none hfirst] at h ⊢
      obtain ⟨done, message', todo, rfl, hdone, hfault, htext⟩ := ih h
      have hearlier : earlier + (message :: done).length = earlier + 1 + done.length := by
        rw [List.length_cons]
        omega
      refine ⟨message :: done, message', todo, rfl, ?_, ?_, ?_⟩
      · rw [writeAll_cons_of_none hfirst]
        exact hdone
      · rw [hearlier]
        exact hfault
      · rw [hearlier, writeAll_cons_of_none hfirst]
        dsimp only
        rw [htext, List.append_assoc]

/-! ## Two shells -/

lemma documented_piped : piped.Documented where
  written {channel earlier message} _ := by
    cases channel with
    | dump => exact ⟨_, Ansi.leaves_strip message, rfl⟩
    | log => exact ⟨message, Ansi.Leaves.refl message, rfl⟩
    | report => exact ⟨_, Ansi.leaves_strip message, rfl⟩

/-- A shell whose streams hold no characters but those of the first 256 code points, and get nothing of a
message with another. -/
def narrow : Shell where
  write _ _ message :=
    if message.all fun c => c.toNat < 256 then { text := message ++ ['\n'] }
    else { fault := some (.other "ordinal not in range(256)") }
  refusal message := message ++ ['\n']

lemma documented_narrow : narrow.Documented where
  written {channel earlier message} h := by
    unfold narrow at h ⊢
    dsimp only at h ⊢
    split_ifs at h ⊢ with hnarrow
    exact ⟨message, Ansi.Leaves.refl message, rfl⟩

end ScriptLexer.CommandLine.Shell
