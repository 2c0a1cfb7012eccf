import ScriptLexer.Proofs.Session.Source

/-!
# The line of an error

The number that an error carries is that of the line at which reading fails.  The lines up to this
one are enough for the error, and those in front of it are read without one.  Only a comment that is
open at the end of the source is told at the last line, wherever it begins
(`tokenizeStream_error_line`).
-/

namespace ScriptLexer

namespace Cursor

variable {r : Rules} {marked : Bool} {c : Cursor}

/-- An error is one of some line.  The lines up to it give the error, and the lines in front of it
give none. -/
lemma exists_line_of_exhaust_eq_error {chunks : List Chunk} {e : LexicalError}
    (hchunks : ∀ chunk ∈ chunks, chunk.isEmpty = false) (hstream : r.streaming = true)
    (hrest : drain r c = .ok ([], c)) (h : exhaust r marked c chunks = .error e) :
    ∃ k, k < chunks.length ∧ e.location = some ⟨r.file, (c.lineNumber + (k + 1) : Nat)⟩ ∧
      e.fault.kind ≠ .unterminatedComment ∧
      exhaust r marked c (chunks.take (k + 1)) = .error e ∧
      ∃ p, exhaust r marked c (chunks.take k) = .ok p := by
  obtain ⟨before, chunk, behind, ts, last, rfl, hbefore, hfault⟩ :=
    exists_chunk_of_exhaust_error hrest h
  obtain ⟨hbeforeLines, hothers⟩ := List.forall_mem_append.1 hchunks
  have hchunk : chunk.isEmpty = false := hothers chunk List.mem_cons_self
  have hlast := drain_of_exhaust_eq_ok hbefore
  have hnumber := lineNumber_of_exhaust_eq_ok hbeforeLines hbefore
  have hthis : exhaust r marked last [chunk] = .error e ∧
      e.location = some ⟨r.file, (last.lineNumber + 1 : Nat)⟩ ∧
      e.fault.kind ≠ .unterminatedComment := by
    rcases hfault with ⟨fault, hdecode, rfl⟩ | ⟨line, hdecode, hdrain⟩
    · exact ⟨exhaust_cons_of_decode_error hlast hchunk hdecode [], rfl, nofun⟩
    · have hfails := drain_eq_error_iff.1 hdrain
      refine ⟨?_, ?_, hfails.kind_ne.2⟩
      · rw [exhaust_cons_of_decode hlast hchunk hdecode, hdrain, Reading.andThen_error]
      · rw [hfails.location_eq, location_of_streaming hstream]
        rfl
  obtain ⟨herror, hplace, hkind⟩ := hthis
  have hwith : (before ++ chunk :: behind).take (before.length + 1) = before ++ [chunk] := by
    simp [List.take_append]
  refine ⟨before.length, by simp, ?_, hkind, ?_, (ts, last), ?_⟩
  · rw [hplace, hnumber, Nat.add_assoc]
  · rw [hwith, exhaust_append hbeforeLines, hbefore, Reading.andThen_ok_eq_error_iff, herror]
  · rw [List.take_left, hbefore]

end Cursor

/-- The setup with no more than the first reads of its stream. -/
def Session.Setup.firstReads (setup : Session.Setup) (k : Nat) : Session.Setup :=
  { setup with
    stream := setup.stream.map fun stream => { stream with chunks := stream.chunks.take k } }

/-- The number of lines of a stream: the reads up to one that gives nothing. -/
def Stream.lineCount (stream : Stream) : Nat := (Chunk.untilEnd stream.chunks).length

section

variable {setup : Session.Setup} {stream : Stream}

/-- Of an open stream the first lines are read from the start. -/
lemma tokenizeStream_firstReads (hstream : setup.stream = some stream)
    (hopen : stream.isClosed = false) (hmark : setup.mark.refusal? = none) {k : Nat}
    (hk : k ≤ stream.lineCount) :
    (tokenizeStream (setup.firstReads k)).result =
      ((({} : Cursor).exhaust setup.rules (setup.mark = .mark .utf8)
        ((Chunk.untilEnd stream.chunks).take k)).finish setup.rules).mapError .lexical := by
  have hfirst : (setup.firstReads k).stream = some { stream with chunks := stream.chunks.take k } := by
    simp only [Session.Setup.firstReads, hstream, Option.map_some]
  have hlines : (Chunk.untilEnd stream.chunks).take k = stream.chunks.take k := by
    obtain ⟨behind, hbehind⟩ : Chunk.untilEnd stream.chunks <+: stream.chunks :=
      List.takeWhile_prefix _
    conv_rhs => rw [← hbehind, List.take_append_of_le_length hk]
  rw [hlines]
  exact tokenizeStream_eq (setup.firstReads k) hfirst hopen hmark

/-- **The line of an error.**  Let the mark of a stream be accepted, and let reading the stream fail
with an error of the source.  The error has its place in this source, on one of the lines.  If a
comment is open at the end of the source, it is the last line.  Else it is the line at which reading
fails: the lines up to this one give the same error, and the lines in front of it are read without
any, except that a comment may be open at their end. -/
theorem tokenizeStream_error_line {e : LexicalError} (hstream : setup.stream = some stream)
    (hmark : setup.mark.refusal? = none)
    (h : (tokenizeStream setup).result = .error (.lexical e)) :
    ∃ k : Nat, e.location = some ⟨setup.sourceName, k⟩ ∧ 1 ≤ k ∧ k ≤ stream.lineCount ∧
      (e.fault.kind = .unterminatedComment → k = stream.lineCount) ∧
      (e.fault.kind ≠ .unterminatedComment →
        (tokenizeStream (setup.firstReads k)).result = .error (.lexical e) ∧
        ((∃ ts, (tokenizeStream (setup.firstReads (k - 1))).result = .ok ts) ∨
          ∃ e', (tokenizeStream (setup.firstReads (k - 1))).result = .error (.lexical e') ∧
            e'.fault.kind = .unterminatedComment)) := by
  have hopen : stream.isClosed = false := by
    refine Bool.eq_false_iff.2 fun hclosed => ?_
    rw [tokenizeStream_of_closed hstream hclosed hmark] at h
    cases h
  have hlines : ∀ chunk ∈ Chunk.untilEnd stream.chunks, chunk.isEmpty = false :=
    fun _ => Chunk.isEmpty_of_mem_untilEnd
  rw [tokenizeStream_eq setup hstream hopen hmark, ← Cursor.exhaust_untilEnd] at h
  cases hread : ({} : Cursor).exhaust setup.rules (setup.mark = .mark .utf8)
      (Chunk.untilEnd stream.chunks) with
  | error e' =>
    -- reading has failed on some line
    rw [hread] at h
    obtain rfl : e' = e := Failure.lexical.inj (Except.error.inj h)
    obtain ⟨k, hk, hplace, hkind, herror, p, hbefore⟩ :=
      Cursor.exists_line_of_exhaust_eq_error hlines rfl (Cursor.drain_of_nil rfl) hread
    rw [Nat.zero_add] at hplace
    refine ⟨k + 1, hplace, Nat.le_add_left 1 k, hk, fun hopen => absurd hopen hkind, fun _ => ⟨?_, ?_⟩⟩
    · rw [tokenizeStream_firstReads hstream hopen hmark hk, herror]
      rfl
    · rw [Nat.add_sub_cancel, tokenizeStream_firstReads hstream hopen hmark (Nat.le_of_lt hk),
        hbefore]
      cases hfinish : Reading.finish setup.rules (.ok p) with
      | error e'' => exact Or.inr ⟨e'', rfl, (Reading.finish_ok_eq_error hfinish).2.1⟩
      | ok ts => exact Or.inl ⟨ts, rfl⟩
  | ok p =>
    -- all lines have been read, so there is at least one, and a comment is open behind the last
    rw [hread] at h
    have hfinish : Reading.finish setup.rules (.ok p) = .error e := by
      cases hresult : Reading.finish setup.rules (.ok p) with
      | error e' =>
        rw [hresult] at h
        rw [Failure.lexical.inj (Except.error.inj h)]
      | ok ts =>
        rw [hresult] at h
        cases h
    obtain ⟨hmode, hkind, hplace⟩ := Reading.finish_ok_eq_error hfinish
    have hnumber := Cursor.lineNumber_of_exhaust_eq_ok hlines hread
    rw [Nat.zero_add] at hnumber
    refine ⟨stream.lineCount, ?_, ?_, le_rfl, fun _ => rfl, fun hother => absurd hkind hother⟩
    · rw [hplace, Cursor.location_of_streaming rfl, hnumber]
      rfl
    · refine Nat.one_le_iff_ne_zero.2 fun hnone => hmode ?_
      rw [List.length_eq_zero_iff.1 hnone, Cursor.exhaust_nil, Cursor.drain_of_nil rfl] at hread
      rw [← Except.ok.inj hread]

end

/-- Four lines with a comment over the second and the third, and behind it a name that is kept for
internal use.  The third line is told; in front of it the comment is open. -/
theorem tokenizeStream_error_line_comment :
    ∃ (setup : Session.Setup) (stream : Stream) (e e' : LexicalError),
      setup.stream = some stream ∧ setup.mark.refusal? = none ∧ stream.lineCount = 4 ∧
      (tokenizeStream setup).result = .error (.lexical e) ∧
      e.diagnostic.kind = .reservedIdentifier ∧ e.location = some ⟨namelessSource, 3⟩ ∧
      (tokenizeStream (setup.firstReads 3)).result = .error (.lexical e) ∧
      (tokenizeStream (setup.firstReads 2)).result = .error (.lexical e') ∧
      e'.fault.kind = .unterminatedComment := by
  let stream := Stream.ofText "x\n/* a\n*/ __y\nz".toList
  let setup : Session.Setup := { stream := some stream }
  let e : LexicalError := ⟨.reservedName "__y".toList, some ⟨namelessSource, 3⟩⟩
  have h : (tokenizeStream setup).result = .error (.lexical e) := by decide +kernel
  obtain ⟨k, hplace, -, -, -, hlines⟩ := tokenizeStream_error_line rfl rfl h
  obtain rfl : k = 3 := by
    have hline : (3 : Int) = k := congrArg Location.line (Option.some.inj hplace)
    omega
  obtain ⟨hwith, ⟨ts, hwithout⟩ | ⟨e', hwithout, hkind⟩⟩ := hlines nofun
  · have hopen : (tokenizeStream (setup.firstReads 2)).result =
        .error (.lexical ⟨.openBlock, some ⟨namelessSource, 2⟩⟩) := by
      decide +kernel
    rw [hopen] at hwithout
    cases hwithout
  · exact ⟨setup, stream, e, e', rfl, rfl, by decide, h, rfl, rfl, hwith, hwithout, hkind⟩

end ScriptLexer
