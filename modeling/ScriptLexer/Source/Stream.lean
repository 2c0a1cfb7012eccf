import ScriptLexer.Text.Utf8

/-!
# Streams

A stream gives a source read by read, each read a line of text or of bytes.  A read that gives
nothing tells that the source has ended; a stream that is asked again goes on with its next read.

A read of an open stream gives something or nothing, but never fails: an error of the system in the
middle of a source is not represented.
-/

namespace ScriptLexer

/-- What a single read gives. -/
inductive Chunk where
  | text (t : Text)
  | bytes (b : List UInt8)
deriving DecidableEq, Repr

namespace Chunk

/-- Whether a read gives nothing. -/
def isEmpty : Chunk → Bool
  | .text t => t.isEmpty
  | .bytes b => b.isEmpty

/-- The length of what a read gives. -/
def size : Chunk → Nat
  | .text t => t.length
  | .bytes b => b.length

/-- The text that a read gives. -/
def decode : Chunk → Except Utf8.Fault Text
  | .text t => .ok t
  | .bytes b => Utf8.decode b

theorem length_of_decode {c : Chunk} {t : Text} (h : c.decode = .ok t) : t.length ≤ c.size := by
  cases c with
  | text =>
    cases h
    exact Nat.le_refl _
  | bytes => exact Utf8.length_of_decode h

end Chunk

/-- Cuts a list behind every occurrence of `mark`.  Nothing is left empty. -/
def cutAfter {α : Type} [DecidableEq α] (mark : α) : List α → List (List α)
  | [] => []
  | a :: r =>
    if a = mark then [a] :: cutAfter mark r
    else
      match cutAfter mark r with
      | [] => [[a]]
      | line :: lines => (a :: line) :: lines

/-- Where the reads of a stream come from. -/
inductive Stream.Origin where
  | text | reads | bytes | file
deriving DecidableEq, Repr

/-- A stream of reads. -/
structure Stream where
  /-- Where the reads come from. -/
  origin : Stream.Origin
  /-- The reads to come. -/
  chunks : List Chunk
  /-- How often the stream has been closed. -/
  closings : Nat := 0
deriving DecidableEq, Repr

namespace Stream

/-- A stream of the lines of a text; only a line feed ends a line. -/
def ofText (t : Text) : Stream := { origin := .text, chunks := (cutAfter '\n' t).map .text }

/-- A stream of the lines of some bytes. -/
def ofBytes (b : List UInt8) : Stream :=
  { origin := .bytes, chunks := (cutAfter 0x0A b).map .bytes }

/-- A stream of the lines of a file's bytes. -/
def ofFile (b : List UInt8) : Stream := { ofBytes b with origin := .file }

/-- A stream of the given reads. -/
def ofReads (chunks : List Chunk) : Stream := { origin := .reads, chunks }

/-- Whether the stream can no longer be read. -/
def isClosed (s : Stream) : Bool := s.closings != 0

/-- The stream after one more closing. -/
def close (s : Stream) : Stream := { s with closings := s.closings + 1 }

/-- The wording of a read from a closed stream. -/
def Origin.closedMessage : Origin → Text
  | .text | .reads => "I/O operation on closed file"
  | .bytes => "I/O operation on closed file."
  | .file => "readline of closed file"

end Stream

end ScriptLexer
