/-!
# Text as UTF-8 bytes

Every text is its UTF-8 bytes, and bytes are read back only when they are exactly such a text.
Bytes that are no text are split into pieces: whole characters, sequences that no character begins
with, and a character cut off at the end. The first faulty piece explains a rejection, and a lenient
reading puts a replacement character in place of each faulty piece.
-/

namespace StoreGate.Utf8

/-- The UTF-8 bytes of a text. -/
def encode (text : String) : List UInt8 :=
  text.toByteArray.data.toList

/-- The text whose UTF-8 bytes are the given ones, if there is one. -/
def decode? (bytes : List UInt8) : Option String :=
  String.fromUTF8? ⟨bytes.toArray⟩

theorem decode?_encode (text : String) : decode? (encode text) = some text := by
  simp [decode?, encode, String.fromUTF8?, text.isValidUTF8, String.fromUTF8]

theorem encode_eq_of_decode? {bytes : List UInt8} {text : String}
    (decoded : decode? bytes = some text) : encode text = bytes := by
  simp only [decode?, String.fromUTF8?] at decoded
  split at decoded
  · cases decoded
    simp [encode, String.fromUTF8]
  · cases decoded

theorem decode?_eq_some_iff {bytes : List UInt8} {text : String} :
    decode? bytes = some text ↔ encode text = bytes :=
  ⟨encode_eq_of_decode?, fun same => same ▸ decode?_encode text⟩

theorem encode_injective {first second : String} (same : encode first = encode second) :
    first = second := by
  have decoded := decode?_encode first
  rw [same, decode?_encode] at decoded
  exact (Option.some.inj decoded).symm

/-- A stretch of bytes as a reader of characters meets it. -/
inductive Piece where
  /-- One complete character. -/
  | whole (bytes : List UInt8)
  /-- Bytes that no character begins with. -/
  | broken (bytes : List UInt8)
  /-- The beginning of a character, where the bytes end. -/
  | cut (bytes : List UInt8)
  deriving Repr, DecidableEq

/-- A character that has begun: its bytes so far in reverse, how many are still due, and the range
in which the next one must lie. -/
structure Begun where
  bytes : List UInt8
  due : Nat
  low : UInt8
  high : UInt8

/-- What a first byte announces: how many bytes follow, and the range of the next one. The narrowed
ranges leave out overlong forms, surrogates, and values beyond the last code point. -/
def announced (byte : UInt8) : Option (Nat × UInt8 × UInt8) :=
  if byte < 0x80 then some (0, 0x80, 0xbf)
  else if byte < 0xc2 then none
  else if byte < 0xe0 then some (1, 0x80, 0xbf)
  else if byte = 0xe0 then some (2, 0xa0, 0xbf)
  else if byte = 0xed then some (2, 0x80, 0x9f)
  else if byte < 0xf0 then some (2, 0x80, 0xbf)
  else if byte = 0xf0 then some (3, 0x90, 0xbf)
  else if byte < 0xf4 then some (3, 0x80, 0xbf)
  else if byte = 0xf4 then some (3, 0x80, 0x8f)
  else none

/-- The piece that a byte completes where a character may begin, and the character it begins. -/
def start (byte : UInt8) : List Piece × Option Begun :=
  match announced byte with
  | none => ([.broken [byte]], none)
  | some (0, _, _) => ([.whole [byte]], none)
  | some (due + 1, low, high) => ([], some ⟨[byte], due + 1, low, high⟩)

/-- One more byte: the pieces it completes, and the character that is open after it. -/
def advance (open? : Option Begun) (byte : UInt8) : List Piece × Option Begun :=
  match open? with
  | none => start byte
  | some begun =>
    if begun.low ≤ byte ∧ byte ≤ begun.high then
      if begun.due ≤ 1 then ([.whole (byte :: begun.bytes).reverse], none)
      else ([], some ⟨byte :: begun.bytes, begun.due - 1, 0x80, 0xbf⟩)
    else
      let (pieces, next) := start byte
      (.broken begun.bytes.reverse :: pieces, next)

/-- The pieces of the bytes that follow an open character. -/
def piecesFrom (open? : Option Begun) : List UInt8 → List Piece
  | [] => match open? with
    | none => []
    | some begun => [.cut begun.bytes.reverse]
  | byte :: rest =>
    let (pieces, next) := advance open? byte
    pieces ++ piecesFrom next rest

/-- Bytes as a reader of characters meets them. -/
def pieces (bytes : List UInt8) : List Piece :=
  piecesFrom none bytes

/-- Why bytes are no text, and where that shows first. -/
inductive Fault where
  | invalid (length index : Nat)
  | incomplete (index : Nat)
  deriving Repr, DecidableEq

def Fault.message : Fault → String
  | .invalid length index =>
    "invalid utf-8 sequence of " ++ toString length ++ " bytes from index " ++ toString index
  | .incomplete index => "incomplete utf-8 byte sequence from index " ++ toString index

/-- The first fault among pieces that begin at an index. -/
def firstFault (index : Nat) : List Piece → Fault
  | [] => .incomplete index
  | .whole bytes :: rest => firstFault (index + bytes.length) rest
  | .broken bytes :: _ => .invalid bytes.length index
  | .cut _ :: _ => .incomplete index

/-- Reads bytes as text, or says what is wrong with them. -/
def decode (bytes : List UInt8) : Except Fault String :=
  match decode? bytes with
  | some text => .ok text
  | none => .error (firstFault 0 (pieces bytes))

theorem decode_encode (text : String) : decode (encode text) = .ok text := by
  simp [decode, decode?_encode]

theorem decode_eq_ok_iff {bytes : List UInt8} {text : String} :
    decode bytes = .ok text ↔ encode text = bytes := by
  rw [← decode?_eq_some_iff]
  unfold decode
  split <;> simp_all

/-- The bytes of a piece, with those of a replacement character for a faulty one. -/
def Piece.mended : Piece → List UInt8
  | .whole bytes => bytes
  | .broken _ | .cut _ => [0xef, 0xbf, 0xbd]

/-- Reads bytes as text, with a replacement character for every faulty piece. -/
def decodeLossy (bytes : List UInt8) : String :=
  match decode? bytes with
  | some text => text
  | none => (decode? ((pieces bytes).flatMap Piece.mended)).getD ""

theorem decodeLossy_encode (text : String) : decodeLossy (encode text) = text := by
  simp [decodeLossy, decode?_encode]

end StoreGate.Utf8
