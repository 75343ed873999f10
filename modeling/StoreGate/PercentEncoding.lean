import StoreGate.Hexadecimal
import StoreGate.Text.Utf8
/-!
# Percent-encoding

Bytes outside ASCII, and ASCII bytes of a chosen set, are written as a percent sign and two uppercase
hexadecimal digits. Decoding leaves a percent sign alone that no two digits follow.
-/

namespace StoreGate.PercentEncoding

/-- The ASCII characters that an encoding escapes. -/
abbrev EscapeSet := Char → Bool

/-- Control characters. -/
def controls : EscapeSet := fun char => char.toNat < 0x20 || char.toNat = 0x7f

/-- What is escaped in fragments. -/
def fragment : EscapeSet := fun char => controls char || " \"<>\x60".toList.contains char

/-- What is escaped in paths. -/
def path : EscapeSet := fun char => fragment char || "#?\x7b\x7d".toList.contains char

/-- What is escaped in user names and passwords. -/
def userInfo : EscapeSet := fun char => path char || "/:;=@[\\]^|".toList.contains char

/-- What is escaped in queries. -/
def query : EscapeSet := fun char => controls char || " \"#<>".toList.contains char

/-- What is escaped in queries of the schemes of the web. -/
def specialQuery : EscapeSet := fun char => query char || char = '\''

/-- What is escaped in a file name that is one segment of a path. -/
def pathSegment : EscapeSet := fun char => path char || char = '%' || char = '/'

/-- Everything but letters and digits. -/
def nonAlphanumeric : EscapeSet := fun char => !char.isAlphanum

/-- The uppercase hexadecimal digit of a value below sixteen. -/
def digit (value : Nat) : Char :=
  if value < 10 then Char.ofNat (48 + value) else Char.ofNat (55 + value)

/-- A byte as an escape. -/
def escape (byte : UInt8) : List Char :=
  ['%', digit (byte.toNat / 16), digit (byte.toNat % 16)]

def encodeByte (escaped : EscapeSet) (byte : UInt8) : List Char :=
  let char := Char.ofNat byte.toNat
  if 0x80 ≤ byte || escaped char then escape byte else [char]

/-- A text with its escapes. -/
def encode (escaped : EscapeSet) (text : String) : List Char :=
  (Utf8.encode text).flatMap (encodeByte escaped)

/-- The byte that two hexadecimal digits write. -/
def escaped? (high low : UInt8) : Option UInt8 := do
  let high ← Hexadecimal.value? (Char.ofNat high.toNat)
  let low ← Hexadecimal.value? (Char.ofNat low.toNat)
  return UInt8.ofNat (16 * high + low)

/-- The bytes that are meant by bytes with escapes among them. -/
def decodeBytes : List UInt8 → List UInt8
  | byte :: high :: low :: rest =>
    if byte = 0x25 then
      match escaped? high low with
      | some value => value :: decodeBytes rest
      | none => byte :: decodeBytes (high :: low :: rest)
    else byte :: decodeBytes (high :: low :: rest)
  | bytes => bytes

/-- The bytes that are meant by a text with escapes. -/
def decode (text : String) : List UInt8 :=
  decodeBytes (Utf8.encode text)

/-- How form data write a byte: a blank is a plus sign, and few other characters stand for
themselves. -/
def encodeFormByte (byte : UInt8) : List Char :=
  let char := Char.ofNat byte.toNat
  if byte = 0x20 then ['+']
  else if byte < 0x80 && (char.isAlphanum || "*-._".toList.contains char) then [char]
  else escape byte

/-- A text as form data write it. -/
def encodeForm (text : String) : List Char :=
  (Utf8.encode text).flatMap encodeFormByte

/-- The text that form data mean. -/
def decodeForm (text : List Char) : String :=
  let spaced := text.map fun char => if char = '+' then ' ' else char
  Utf8.decodeLossy (decode (String.ofList spaced))

end StoreGate.PercentEncoding
