import ScriptLexer.Cursor
import ScriptLexer.Source.Stream

/-!
# The next token of a source

When a line holds no more tokens the next one is read, until a token is found or the source ends.
At the end no comment may be open; then a token tells that the source has ended.
-/

namespace ScriptLexer

/-- A fault and its place, if lines are counted. -/
structure LexicalError where
  /-- What is wrong. -/
  fault : Fault
  /-- Where. -/
  location : Option Location
deriving DecidableEq, Repr

/-- What a reader is told about an error. -/
def LexicalError.diagnostic (e : LexicalError) : Diagnostic := e.fault.diagnostic e.location

/-- The result of asking for the next token of a source. -/
structure Pull where
  /-- The token, or the error in its place. -/
  found : Except LexicalError Token
  /-- The cursor behind it. -/
  cursor : Cursor
  /-- The reads still to come. -/
  chunks : List Chunk
  /-- What happened on the way, in order. -/
  events : List Event

/-- The text of the token that ends a source. -/
def endText : Text := "<end of file>"

/-- The byte order mark as a character. -/
def markCharacter : Char := '\uFEFF'

namespace Cursor

/-- The result at the end of a source: a fault if a comment is open, else the token that ends it. -/
def finish (r : Rules) (c : Cursor) : Except LexicalError Token :=
  match c.mode.unclosed? with
  | some fault => .error ⟨fault, c.location r⟩
  | none =>
    .ok { kind := .endOfFile, text := endText, location := ⟨r.file, max c.lineNumber 1⟩,
          startsLine := true }

/-- A line as it is read: the first line of a source with a mark loses the mark's characters. -/
def unmarked (c : Cursor) (marked : Bool) (line : Text) : Text :=
  if marked && c.lineNumber == 0 then line.dropWhile (· == markCharacter) else line

/-- The next token of a source of which the given reads are to come.  A line that is not UTF-8 is
used up but not counted; its fault is placed on the line that it would have been. -/
def next (r : Rules) (marked : Bool) (c : Cursor) (chunks : List Chunk) : Pull :=
  let s := c.scan r
  match s.found with
  | .ok (some t) => ⟨.ok t, s.cursor, chunks, s.events⟩
  | .error fault => ⟨.error ⟨fault, c.location r⟩, s.cursor, chunks, s.events⟩
  | .ok none =>
    match chunks with
    | [] => ⟨s.cursor.finish r, s.cursor, [], s.events⟩
    | chunk :: chunks =>
      if chunk.isEmpty then ⟨s.cursor.finish r, s.cursor, chunks, s.events⟩
      else
        match chunk.decode with
        | .error fault =>
          ⟨.error ⟨.encoding fault, some ⟨r.file, s.cursor.lineNumber + 1⟩⟩, s.cursor, chunks,
            s.events⟩
        | .ok line =>
          let later := next r marked (s.cursor.start (s.cursor.unmarked marked line)) chunks
          { later with events := s.events ++ later.events }

/-- How much text is left on the line and in the reads to come. -/
def pending (c : Cursor) (chunks : List Chunk) : Nat :=
  c.rest.length + chunks.foldr (fun chunk size => chunk.size + 1 + size) 0

theorem length_start_le (c : Cursor) (marked : Bool) (line : Text) :
    (c.start (c.unmarked marked line)).rest.length ≤ line.length := by
  have trimmed := Text.length_trim_le (c.unmarked marked line)
  have : (c.unmarked marked line).length ≤ line.length := by
    unfold unmarked
    split
    · exact (List.dropWhile_suffix _).length_le
    · exact Nat.le_refl _
  simp only [start]
  omega

theorem kind_of_finish {r : Rules} {c : Cursor} {t : Token} (h : c.finish r = .ok t) :
    t.kind = .endOfFile := by
  unfold finish at h
  split at h
  · cases h
  · cases h
    rfl

/-- A token that does not end the source takes something off it. -/
theorem pending_of_next {r : Rules} {marked : Bool} {c : Cursor} {chunks : List Chunk} {t : Token}
    (h : (next r marked c chunks).found = .ok t) (ht : t.kind ≠ .endOfFile) :
    (next r marked c chunks).cursor.pending (next r marked c chunks).chunks < c.pending chunks := by
  induction chunks generalizing c with
  | nil =>
    unfold next at h ⊢
    simp only at h ⊢
    split
    · rename_i hs
      have := length_of_scan hs
      simp only [pending]
      omega
    · rename_i hs
      simp [hs] at h
    · rename_i hs
      simp only [hs] at h
      exact absurd (kind_of_finish h) ht
  | cons chunk chunks ih =>
    unfold next at h ⊢
    simp only at h ⊢
    split
    · rename_i hs
      have := length_of_scan hs
      simp only [pending]
      omega
    · rename_i hs
      simp [hs] at h
    · rename_i hs
      simp only [hs] at h
      split
      · rename_i hempty
        simp only [hempty, if_true] at h
        exact absurd (kind_of_finish h) ht
      · rename_i hempty
        simp only [hempty] at h
        split
        · rename_i hd
          simp [hd] at h
        · rename_i line hd
          simp only [hd] at h
          have later := ih h
          have short := length_start_le (c.scan r).cursor marked line
          have bound := Chunk.length_of_decode hd
          simp only [pending, List.foldr_cons] at later ⊢
          omega

end Cursor

end ScriptLexer
