import ScriptLexer.Proofs.Cursor.Shift
import ScriptLexer.Proofs.Session.Transparency

/-!
# Texts in a row

A text that ends with a line feed, and is read without a fault, has no influence on the text behind
it.  The two together give the tokens of the first and then those of the second, with other numbers
of lines (`tokenizeText_append`).

Behind the first text the cursor differs from that of a new session in the number of its line, and
in whether a token has been found on it.  The latter is settled anew on the next line, and so what
follows is read further down (`Cursor.readText_of_outside`).
-/

namespace ScriptLexer

namespace Cursor

variable {r : Rules} {c last : Cursor} {ts : List Token}

/-- A text is read from the start of its first line. -/
lemma readText_eq_exhaust (hrest : drain r c = .ok ([], c)) {t : Text} (hne : t ≠ []) :
    readText r c t =
      exhaust r false (c.start (firstPart '\n' t)) ((laterParts '\n' t).map .text) := by
  have hline : '\n' ∉ ([] : Text) := List.not_mem_nil
  exact readText_append_line (t := t) hrest hline hne

/-- Outside comments a text is read as it is read from the start, further down. -/
lemma readText_of_outside (hrest : drain r c = .ok ([], c)) (hmode : c.mode = .outside) {t : Text}
    (hne : t ≠ []) : readText r c t = (readText r {} t).shift c.lineNumber := by
  have hstart : c.start (firstPart '\n' t) =
      (({} : Cursor).start (firstPart '\n' t)).shift c.lineNumber := by
    simp only [start, shift, hmode]
    rw [Nat.zero_add, Nat.add_comm]
  rw [readText_eq_exhaust hrest hne, readText_eq_exhaust (drain_of_nil rfl) hne, hstart,
    exhaust_shift (Nat.le_refl 1)]

/-- The line feeds of a text are the lines that are counted. -/
lemma lineNumber_of_readText {t : Text} (hends : Ends '\n' t)
    (h : readText r c t = .ok (ts, last)) : last.lineNumber = c.lineNumber + t.count '\n' := by
  rw [lineNumber_of_exhaust_eq_ok (isEmpty_of_mem_lines t) h, List.length_map,
    length_cutAfter_of_ends hends]

/-- A text that is not empty ends on some line. -/
lemma one_le_lineNumber_of_readText {t : Text} (hne : t ≠ [])
    (h : readText r c t = .ok (ts, last)) : 1 ≤ last.lineNumber := by
  have hpos : 0 < (cutAfter '\n' t).length := by
    rw [List.length_pos_iff]
    exact fun hnil => hne (cutAfter_eq_nil_iff.1 hnil)
  rw [lineNumber_of_exhaust_eq_ok (isEmpty_of_mem_lines t) h, List.length_map]
  omega

end Cursor

variable {file : Text} {options : Options}

/-- Behind whole lines that are read without a fault a text is read further down. -/
lemma readText_append_of_tokenizeText {a b : Text} {us : List Token} (ha : Ends '\n' a)
    (hb : b ≠ []) (h : tokenizeText file options a = .ok us) :
    ∃ ts e, us = ts ++ [e] ∧ e.kind = .endOfFile ∧
      ({} : Cursor).readText (textRules file options) (a ++ b) =
        ((({} : Cursor).readText (textRules file options) b).shift (a.count '\n')).map
          fun (ts', c) => (ts ++ ts', c) := by
  obtain ⟨ts, last, e, hread, hmode, rfl⟩ := exists_of_tokenizeText_eq_ok h
  refine ⟨ts, e, rfl, ?_, ?_⟩
  · rw [tokenizeText_eq, hread] at h
    simp only [Reading.finish, Except.bind, Cursor.finish_of_outside hmode, Except.map,
      Except.mapError, Except.ok.injEq, List.append_cancel_left_eq, List.cons.injEq] at h
    rw [← h.1]
  · have hnumber := Cursor.lineNumber_of_readText ha hread
    rw [Nat.zero_add] at hnumber
    rw [Cursor.readText_append_of_ends ha, hread, Reading.andThen_ok,
      Cursor.readText_of_outside (Cursor.drain_of_exhaust_eq_ok hread) hmode hb, hnumber]

/-- **Texts in a row.**  Let the text `a` be empty or end with a line feed, and let it be read
without a fault.  Then whatever is put behind it is read as if it stood alone, as many lines further
down as there are line feeds in `a`: the tokens follow those of `a`, of which only the one that ends
the source is missing, and an error is the same error. -/
theorem tokenizeText_append {a b : Text} {us : List Token} (ha : Ends '\n' a) (hb : b ≠ [])
    (h : tokenizeText file options a = .ok us) :
    (∃ e, us = us.dropLast ++ [e] ∧ e.kind = .endOfFile) ∧
    (∀ vs, tokenizeText file options b = .ok vs →
      tokenizeText file options (a ++ b) =
        .ok (us.dropLast ++ vs.map fun t => t.shift (a.count '\n'))) ∧
    ∀ failure, tokenizeText file options b = .error failure →
      ∃ e, failure = .lexical e ∧
        tokenizeText file options (a ++ b) = .error (.lexical (e.shift (a.count '\n'))) := by
  obtain ⟨ts, e, rfl, hkind, happend⟩ := readText_append_of_tokenizeText ha hb h
  set r := textRules file options with hr
  set x := ({} : Cursor).readText r b with hx
  have hfinish : (({} : Cursor).readText r (a ++ b)).finish r =
      (((x.finish r).map fun vs => ts ++ vs.map fun t => t.shift (a.count '\n')).mapError
        fun e => e.shift (a.count '\n')) := by
    have hline : ∀ us c, x = .ok (us, c) → 1 ≤ c.lineNumber := fun _ _ =>
      Cursor.one_le_lineNumber_of_readText hb
    rw [happend, ← Reading.andThen_ok (f := fun _ => x.shift (a.count '\n')) ts {},
      Reading.finish_andThen_ok, Reading.finish_shift hline]
    cases x.finish r <;> rfl
  rw [List.dropLast_concat, tokenizeText_eq file options b, tokenizeText_eq file options (a ++ b),
    ← hr, ← hx, hfinish]
  refine ⟨⟨e, rfl, hkind⟩, ?_, ?_⟩
  · intro vs hvs
    cases hresult : x.finish r with
    | error e =>
      rw [hresult] at hvs
      cases hvs
    | ok vs' =>
      rw [hresult] at hvs
      obtain rfl := Except.ok.inj hvs
      rfl
  · intro failure hfailure
    cases hresult : x.finish r with
    | error e =>
      rw [hresult] at hfailure
      exact ⟨e, (Except.error.inj hfailure).symm, rfl⟩
    | ok vs =>
      rw [hresult] at hfailure
      cases hfailure

/-- Two lines with a comment over them and a directive, and behind them a bracket, or a name that is
kept for internal use. -/
theorem tokenizeText_append_lines :
    ∃ (a : Text) (x bracket e e' : Token) (error : LexicalError),
      a = "x /* 1\n */ # d\n".toList ∧ Ends '\n' a ∧
      tokenizeText [] {} a = .ok [x, e] ∧
      tokenizeText [] {} "\n\x7d".toList = .ok [bracket, e'] ∧
      tokenizeText [] {} (a ++ "\n\x7d".toList) = .ok [x, bracket.shift 2, e'.shift 2] ∧
      (bracket.shift 2).location.line = 4 ∧
      tokenizeText [] {} "\n__x".toList = .error (.lexical error) ∧
      tokenizeText [] {} (a ++ "\n__x".toList) = .error (.lexical (error.shift 2)) := by
  let x : Token :=
    { kind := .identifier, text := "x".toList, location := ⟨namelessSource, 1⟩, startsLine := true }
  let bracket : Token :=
    { kind := .operator .rightCurl, text := "\x7d".toList, location := ⟨namelessSource, 2⟩,
      startsLine := true }
  let e : Token :=
    { kind := .endOfFile, text := endText, location := ⟨namelessSource, 2⟩, startsLine := true }
  let error : LexicalError :=
    ⟨.reservedName "__x".toList, some ⟨namelessSource, 2⟩⟩
  have hends : Ends '\n' "x /* 1\n */ # d\n".toList := Or.inr ⟨"x /* 1\n */ # d".toList, rfl⟩
  have hfirst : tokenizeText [] {} "x /* 1\n */ # d\n".toList = .ok [x, e] := by decide +kernel
  have hsecond : tokenizeText [] {} "\n\x7d".toList = .ok [bracket, e] := by decide +kernel
  have hfault : tokenizeText [] {} "\n__x".toList = .error (.lexical error) := by decide +kernel
  obtain ⟨-, hok, -⟩ := tokenizeText_append (b := "\n\x7d".toList) hends (by simp) hfirst
  obtain ⟨-, -, herror⟩ := tokenizeText_append (b := "\n__x".toList) hends (by simp) hfirst
  obtain ⟨error', herror', hshift⟩ := herror _ hfault
  cases herror'
  exact ⟨_, x, bracket, e, e, error, rfl, hends, hfirst, hsecond, hok _ hsecond, rfl, hfault,
    hshift⟩

end ScriptLexer
