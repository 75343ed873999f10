import StoreGate.Text.Utf8
/-!
# Base64 for URLs, without padding

Three bytes are four symbols of the URL-safe alphabet; one or two bytes at the end are two or three
symbols, and no padding is written. Reading is strict: it takes exactly the texts that writing
produces, so the spare bits of the last symbol must be zero. A separate diagnosis says why any
other text is refused.
-/

namespace StoreGate.Base64Url

/-- The symbol for a value below 64. -/
def symbol (value : UInt8) : Char :=
  if value < 26 then Char.ofNat (65 + value.toNat)
  else if value < 52 then Char.ofNat (71 + value.toNat)
  else if value < 62 then Char.ofNat (value.toNat - 4)
  else if value = 62 then '-'
  else '_'

/-- The value of a symbol. -/
def value? (char : Char) : Option UInt8 :=
  if 'A' ≤ char ∧ char ≤ 'Z' then some (UInt8.ofNat (char.toNat - 65))
  else if 'a' ≤ char ∧ char ≤ 'z' then some (UInt8.ofNat (char.toNat - 71))
  else if '0' ≤ char ∧ char ≤ '9' then some (UInt8.ofNat (char.toNat + 4))
  else if char = '-' then some 62
  else if char = '_' then some 63
  else none

/-- The symbols that write some bytes. -/
def encodeBytes : List UInt8 → List Char
  | [] => []
  | [a] => [symbol (a >>> 2), symbol ((a &&& 3) <<< 4)]
  | [a, b] => [symbol (a >>> 2), symbol ((a &&& 3) <<< 4 ||| b >>> 4), symbol ((b &&& 15) <<< 2)]
  | a :: b :: c :: rest =>
    symbol (a >>> 2) :: symbol ((a &&& 3) <<< 4 ||| b >>> 4) ::
      symbol ((b &&& 15) <<< 2 ||| c >>> 6) :: symbol (c &&& 63) :: encodeBytes rest

/-- The bytes that some symbols write. -/
def decodeSymbols : List Char → Option (List UInt8)
  | [] => some []
  | [_] => none
  | [p, q] => do
    let p ← value? p
    let q ← value? q
    if q &&& 15 = 0 then some [p <<< 2 ||| q >>> 4] else none
  | [p, q, r] => do
    let p ← value? p
    let q ← value? q
    let r ← value? r
    if r &&& 3 = 0 then some [p <<< 2 ||| q >>> 4, q <<< 4 ||| r >>> 2] else none
  | p :: q :: r :: s :: rest => do
    let p ← value? p
    let q ← value? q
    let r ← value? r
    let s ← value? s
    let bytes ← decodeSymbols rest
    some ((p <<< 2 ||| q >>> 4) :: (q <<< 4 ||| r >>> 2) :: (r <<< 6 ||| s) :: bytes)

def encode (bytes : List UInt8) : String :=
  String.ofList (encodeBytes bytes)

def decode? (text : String) : Option (List UInt8) :=
  decodeSymbols text.toList

/-- Why a text is not the written form of any bytes. -/
inductive Fault where
  /-- A byte outside the alphabet. -/
  | symbol (byte : UInt8) (offset : Nat)
  /-- A last symbol whose spare bits are not zero. -/
  | lastSymbol (byte : UInt8) (offset : Nat)
  /-- A single symbol is left over, which holds no whole byte. -/
  | length (symbols : Nat)
  /-- Padding after an otherwise complete text. -/
  | padding
  deriving Repr, DecidableEq

def Fault.message : Fault → String
  | .symbol byte offset =>
    "Invalid symbol " ++ toString byte.toNat ++ ", offset " ++ toString offset ++ "."
  | .lastSymbol byte offset =>
    "Invalid last symbol " ++ toString byte.toNat ++ ", offset " ++ toString offset ++ "."
  | .length symbols => "Invalid input length: " ++ toString symbols
  | .padding => "Invalid padding"

/-- The padding sign, `=`. -/
def paddingSign : UInt8 := 61

def isSymbol (byte : UInt8) : Bool :=
  (value? (Char.ofNat byte.toNat)).isSome

/-- The first byte outside the alphabet, at offsets that begin where the bytes do. -/
def strayByte? (offset : Nat) : List UInt8 → Option Fault
  | [] => none
  | byte :: rest => if isSymbol byte then strayByte? (offset + 1) rest else some (.symbol byte offset)

/-- What is found in the last group of at most four bytes. -/
structure Group where
  /-- Symbols read, the latest first. -/
  symbols : List UInt8
  /-- The place of the first padding sign. -/
  paddedAt : Option Nat

/-- Reads the last group: padding may only stand in its second half, and nothing may follow it. -/
def readGroup (offset : Nat) : (index : Nat) → List UInt8 → Group → Except Fault Group
  | _, [], group => .ok group
  | index, byte :: rest, group =>
    if byte = paddingSign then
      if index < 2 then .error (.symbol byte (offset + index))
      else
        readGroup offset (index + 1) rest
          { group with paddedAt := some (group.paddedAt.getD index) }
    else
      match group.paddedAt with
      | some place => .error (.symbol paddingSign (offset + place))
      | none =>
        if isSymbol byte then
          readGroup offset (index + 1) rest { group with symbols := byte :: group.symbols }
        else .error (.symbol byte (offset + index))

/-- What is wrong with the last group, given that the text is refused. -/
def groupFault (offset : Nat) (bytes : List UInt8) : Fault :=
  match readGroup offset 0 bytes ⟨[], none⟩ with
  | .error fault => fault
  | .ok group =>
    if group.symbols.length < 2 then .length (offset + group.symbols.length)
    else if group.paddedAt.isSome then .padding
    else .lastSymbol (group.symbols.headD 0) (offset + group.symbols.length - 1)

/-- Diagnoses a refused text. A lone last symbol is looked at first, then the complete groups from
the left, and the last group at the end. -/
def fault (bytes : List UInt8) : Fault :=
  let last := bytes.getLastD 0
  if bytes.length % 4 = 1 ∧ last ≠ paddingSign ∧ isSymbol last = false then
    .symbol last (bytes.length - 1)
  else
    let complete := (bytes.length - 1) / 4 * 4
    (strayByte? 0 (bytes.take complete)).getD (groupFault complete (bytes.drop complete))

/-- Reads symbols, or says why they are refused. -/
def decode (text : String) : Except Fault (List UInt8) :=
  match decode? text with
  | some bytes => .ok bytes
  | none => .error (fault (Utf8.encode text))

end StoreGate.Base64Url
