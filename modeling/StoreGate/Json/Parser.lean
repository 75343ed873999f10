import StoreGate.Bits
import StoreGate.Hexadecimal
import StoreGate.Json.Basic
import StoreGate.Text.Utf8
/-!
# Reading JSON documents

The grammar of RFC 8259, read from bytes. Strings are checked for being text only where they are
kept, so a document may hold an unreadable string as long as nobody asks for it. Escapes are
turned into bytes at once; half of a surrogate pair becomes bytes that no text has.
-/

namespace StoreGate.Json

/-- The byte of an ASCII character. -/
def ascii (char : Char) : UInt8 :=
  UInt8.ofNat char.toNat

def isBlank (byte : UInt8) : Bool :=
  byte = 0x20 || byte = 0x0a || byte = 0x09 || byte = 0x0d

def skipBlanks (bytes : List UInt8) : List UInt8 :=
  bytes.dropWhile isBlank

/-- What follows a given beginning. -/
def after? : (expected : List Char) → List UInt8 → Option (List UInt8)
  | [], bytes => some bytes
  | _ :: _, [] => none
  | char :: expected, byte :: rest => if byte = ascii char then after? expected rest else none

/-- The value of a hexadecimal digit. -/
def hexValue? (byte : UInt8) : Option Nat :=
  Hexadecimal.value? (Char.ofNat byte.toNat)

/-- The UTF-16 unit of four hexadecimal digits. -/
def unit? (a b c d : UInt8) : Option Nat := do
  return ((← hexValue? a) * 16 + (← hexValue? b)) * 256 + (← hexValue? c) * 16 + (← hexValue? d)

/-- The bytes of a code point; those of a surrogate follow the same rule and are no text. -/
def codePointBytes (value : Nat) : List UInt8 :=
  if value < 0x80 then [UInt8.ofNat value]
  else if value < 0x800 then
    [UInt8.ofNat (0xc0 + value / 64), UInt8.ofNat (0x80 + value % 64)]
  else if value < 0x10000 then
    [UInt8.ofNat (0xe0 + value / 4096), UInt8.ofNat (0x80 + value / 64 % 64),
      UInt8.ofNat (0x80 + value % 64)]
  else
    [UInt8.ofNat (0xf0 + value / 262144), UInt8.ofNat (0x80 + value / 4096 % 64),
      UInt8.ofNat (0x80 + value / 64 % 64), UInt8.ofNat (0x80 + value % 64)]

def isHighSurrogate (unit : Nat) : Bool :=
  0xd800 ≤ unit && unit < 0xdc00

def isLowSurrogate (unit : Nat) : Bool :=
  0xdc00 ≤ unit && unit < 0xe000

/-- The byte that a one-letter escape stands for. -/
def escaped? (byte : UInt8) : Option UInt8 :=
  if byte = ascii '"' ∨ byte = ascii '\\' ∨ byte = ascii '/' then some byte
  else if byte = ascii 'b' then some 0x08
  else if byte = ascii 'f' then some 0x0c
  else if byte = ascii 'n' then some 0x0a
  else if byte = ascii 'r' then some 0x0d
  else if byte = ascii 't' then some 0x09
  else none

/-- Puts bytes in front of what was read. -/
def prepend (bytes : List UInt8) (read : List UInt8 × List UInt8) : List UInt8 × List UInt8 :=
  (bytes ++ read.1, read.2)

/-- Reads a string after its opening quote: the bytes it stands for, and what follows it. A surrogate
pair is read as two units, whose code point is known once the second one is there. -/
def content (high? : Option Nat) : List UInt8 → Option (List UInt8 × List UInt8)
  | [] => none
  | byte :: rest =>
    let pending := (high?.map codePointBytes).getD []
    if byte = ascii '"' then some (pending, rest)
    else if byte = ascii '\\' then
      match rest with
      | [] => none
      | letter :: rest =>
        if letter = ascii 'u' then
          match rest with
          | a :: b :: c :: d :: rest => do
            let unit ← unit? a b c d
            match high? with
            | some high =>
              if isLowSurrogate unit then
                (content none rest).map
                  (prepend (codePointBytes (0x10000 + (high - 0xd800) * 1024 + (unit - 0xdc00))))
              else if isHighSurrogate unit then (content (some unit) rest).map (prepend pending)
              else (content none rest).map (prepend (pending ++ codePointBytes unit))
            | none =>
              if isHighSurrogate unit then content (some unit) rest
              else (content none rest).map (prepend (codePointBytes unit))
          | _ => none
        else
          match escaped? letter with
          | some value => (content none rest).map (prepend (pending ++ [value]))
          | none => none
    else if byte < 0x20 then none
    else (content none rest).map (prepend (pending ++ [byte]))

def isDigit (byte : UInt8) : Bool :=
  ascii '0' ≤ byte && byte ≤ ascii '9'

/-- The number that decimal digits write. -/
def valueOfDigits (digits : List UInt8) : Nat :=
  Nat.ofDigitChars 10 (digits.map fun byte => Char.ofNat byte.toNat) 0

/-- Whether a decimal number is below the bound at which doubles become infinite. The digits are
counted first, so that no enormous power is computed. -/
def isFinite (digits : Nat) (exponent : Int) : Bool :=
  let length : Int := (Nat.toDigits 10 digits).length
  if digits = 0 ∨ length + exponent < 309 then true
  else if 310 < length + exponent then false
  else
    let bound := bitLimit 1024 - bitLimit 970
    if exponent < 0 then digits < bound * Nat.pow 10 exponent.natAbs
    else digits * Nat.pow 10 exponent.toNat < bound

/-- The range of integers that are kept exactly. -/
def fitsInteger (value : Int) : Bool :=
  -bitLimit 63 ≤ value && value < bitLimit 64

/-- The value of a number from its parts. Minus zero is no integer. -/
def ofParts (negative : Bool) (whole fraction : List UInt8) (exponent? : Option Int) : Json :=
  let digits := valueOfDigits (whole ++ fraction)
  let value : Int := if negative then -digits else digits
  if fraction.isEmpty ∧ exponent?.isNone ∧ fitsInteger value ∧ ¬(negative ∧ digits = 0) then
    .integer value
  else
    let exponent := exponent?.getD 0 - fraction.length
    if isFinite digits exponent then .decimal negative digits exponent else .unreadable

/-- Reads digits and what follows them. -/
def digits (bytes : List UInt8) : List UInt8 × List UInt8 :=
  (bytes.takeWhile isDigit, bytes.dropWhile isDigit)

/-- Reads a fraction, if there is one. -/
def fraction (bytes : List UInt8) : Option (List UInt8 × List UInt8) :=
  match bytes with
  | byte :: rest =>
    if byte = ascii '.' then
      let (digits, rest) := digits rest
      if digits.isEmpty then none else some (digits, rest)
    else some ([], bytes)
  | [] => some ([], [])

/-- Reads an exponent, if there is one. -/
def exponent (bytes : List UInt8) : Option (Option Int × List UInt8) :=
  match bytes with
  | byte :: rest =>
    if byte = ascii 'e' ∨ byte = ascii 'E' then
      let (negative, rest) := match rest with
        | sign :: tail =>
          if sign = ascii '-' then (true, tail)
          else if sign = ascii '+' then (false, tail)
          else (false, rest)
        | [] => (false, [])
      let (digits, rest) := digits rest
      if digits.isEmpty then none
      else
        let value : Int := valueOfDigits digits
        some (some (if negative then -value else value), rest)
    else some (none, bytes)
  | [] => some (none, [])

/-- Reads a number after its sign. A leading zero stands alone before the point. -/
def number (negative : Bool) (bytes : List UInt8) : Option (Json × List UInt8) := do
  let (whole, rest) := digits bytes
  if whole.isEmpty ∨ (whole.head? = some (ascii '0') ∧ whole.length ≠ 1) then none
  let (fraction, rest) ← fraction rest
  let (exponent?, rest) ← exponent rest
  return (ofParts negative whole fraction exponent?, rest)

/-- The value of a string with the given content. -/
def ofContent (bytes : List UInt8) : Json :=
  match Utf8.decode? bytes with
  | some text => .string text
  | none => .unreadable

/-- One more member; a name that is no text makes the whole object unreadable. -/
def addMember (name : List UInt8) (value : Json) (members? : Option (List (String × Json))) :
    Option (List (String × Json)) := do
  return (← Utf8.decode? name, value) :: (← members?)

/-- The object with the given members. -/
def ofMembers : Option (List (String × Json)) → Json
  | some members => .object members
  | none => .unreadable

mutual

/-- Reads one value that begins at the first byte. -/
def value : (fuel : Nat) → List UInt8 → Option (Json × List UInt8)
  | 0, _ => none
  | fuel + 1, bytes =>
    match bytes with
    | [] => none
    | byte :: rest =>
      if byte = ascii '"' then do
        let (bytes, rest) ← content none rest
        return (ofContent bytes, rest)
      else if byte = ascii '\x7b' then
        match skipBlanks rest with
        | [] => none
        | next :: tail =>
          if next = ascii '\x7d' then some (.object [], tail)
          else do
            let (members?, rest) ← members fuel (next :: tail)
            return (ofMembers members?, rest)
      else if byte = ascii '[' then
        match skipBlanks rest with
        | [] => none
        | next :: tail =>
          if next = ascii ']' then some (.array [], tail)
          else do
            let (items, rest) ← items fuel (next :: tail)
            return (.array items, rest)
      else if byte = ascii 't' then (after? ['r', 'u', 'e'] rest).map ((.boolean true, ·))
      else if byte = ascii 'f' then (after? ['a', 'l', 's', 'e'] rest).map ((.boolean false, ·))
      else if byte = ascii 'n' then (after? ['u', 'l', 'l'] rest).map ((.null, ·))
      else if byte = ascii '-' then number true rest
      else number false bytes

/-- Reads the items of an array that is not empty, with its closing bracket. -/
def items : (fuel : Nat) → List UInt8 → Option (List Json × List UInt8)
  | 0, _ => none
  | fuel + 1, bytes => do
    let (first, rest) ← value fuel (skipBlanks bytes)
    match skipBlanks rest with
    | [] => none
    | byte :: rest =>
      if byte = ascii ']' then some ([first], rest)
      else if byte = ascii ',' then do
        let (others, rest) ← items fuel rest
        return (first :: others, rest)
      else none

/-- Reads the members of an object that is not empty, with its closing brace. -/
def members : (fuel : Nat) → List UInt8 → Option (Option (List (String × Json)) × List UInt8)
  | 0, _ => none
  | fuel + 1, bytes =>
    match skipBlanks bytes with
    | [] => none
    | byte :: rest =>
      if byte = ascii '"' then do
        let (name, rest) ← content none rest
        match skipBlanks rest with
        | [] => none
        | colon :: rest =>
          if colon = ascii ':' then do
            let (member, rest) ← value fuel (skipBlanks rest)
            match skipBlanks rest with
            | [] => none
            | byte :: rest =>
              if byte = ascii '\x7d' then some (addMember name member (some []), rest)
              else if byte = ascii ',' then do
                let (others?, rest) ← members fuel rest
                return (addMember name member others?, rest)
              else none
          else none
      else none

end

/-- Reads a document: one value between blanks. Every value takes at least one byte, so twice the
number of bytes bounds the depth of the recursion. -/
def parse? (bytes : List UInt8) : Option Json := do
  let (read, rest) ← value (2 * bytes.length + 2) (skipBlanks bytes)
  if (skipBlanks rest).isEmpty then some read else none

def ofText? (text : String) : Option Json :=
  parse? (Utf8.encode text)

end StoreGate.Json
