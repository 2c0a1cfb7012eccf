import ScriptLexer.Text.Quoted

/-!
# Byte order marks

A source may begin with a byte order mark, which names its encoding.  Only UTF-8 can be read, with
or without its mark.  The mark of UTF-16 in one byte order begins that of UTF-32, so the longer
signature is looked for first.
-/

namespace ScriptLexer

/-- The byte order marks, and the absence of one. -/
inductive Mark where
  | none | utf8 | utf16le | utf16be | utf32le | utf32be
deriving DecidableEq, Repr

namespace Mark

/-- The marks, in order. -/
def all : List Mark := [.none, .utf8, .utf16le, .utf16be, .utf32le, .utf32be]

/-- The name of a mark. -/
def name : Mark → Text
  | .none => "NONE"
  | .utf8 => "UTF8"
  | .utf16le => "UTF16LE"
  | .utf16be => "UTF16BE"
  | .utf32le => "UTF32LE"
  | .utf32be => "UTF32BE"

/-- The mark of a name. -/
def ofName? (name : Text) : Option Mark := all.find? fun m => m.name == name

/-- The bytes of each mark, a longer signature before those that begin it. -/
def signatures : List (List UInt8 × Mark) :=
  [([0xFF, 0xFE, 0x00, 0x00], .utf32le), ([0x00, 0x00, 0xFE, 0xFF], .utf32be),
    ([0xEF, 0xBB, 0xBF], .utf8), ([0xFF, 0xFE], .utf16le), ([0xFE, 0xFF], .utf16be)]

/-- The mark at the start of the bytes, and its length. -/
def detect (bytes : List UInt8) : Mark × Nat :=
  match signatures.find? fun (signature, _) => signature.isPrefixOf bytes with
  | some (signature, m) => (m, signature.length)
  | .none => (.none, 0)

/-- Whether a source with this mark can be read. -/
def isSupported : Mark → Bool
  | .none | .utf8 => true
  | .utf16le | .utf16be | .utf32le | .utf32be => false

/-- A value that a caller declares to be the mark of a source.  Values other than marks are kept
only to be shown when they are refused. -/
inductive Declared where
  | mark (m : Mark)
  | integer (n : Int)
  | text (t : Text)
  | truth (b : Bool)
  | absent
deriving DecidableEq, Repr

/-- Why a declared mark is refused. -/
inductive Refusal where
  /-- The value is no mark; it is shown in quotes or as a constant. -/
  | unknown (shown : Text)
  /-- The mark is one of another encoding. -/
  | unsupported
deriving DecidableEq, Repr

/-- The reason to refuse a declared mark, if there is one. -/
def Declared.refusal? : Declared → Option Refusal
  | .mark m => if m.isSupported then Option.none else some .unsupported
  | .integer n => some (.unknown (Numeral.integer n))
  | .text t => some (.unknown (Quoted.ofText t))
  | .truth true => some (.unknown "True")
  | .truth false => some (.unknown "False")
  | .absent => some (.unknown "None")

end Mark

end ScriptLexer
