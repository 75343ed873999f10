/-!
# Bytes as hexadecimal digits

Two lowercase digits for each byte, high half first. Reading also takes uppercase digits.
-/

namespace StoreGate.Hexadecimal

/-- The lowercase digit of a value below sixteen. -/
def digit (value : Nat) : Char :=
  if value < 10 then Char.ofNat (48 + value) else Char.ofNat (87 + value)

/-- The value of a digit of either case. -/
def value? (char : Char) : Option Nat :=
  if '0' ≤ char ∧ char ≤ '9' then some (char.toNat - 48)
  else if 'a' ≤ char ∧ char ≤ 'f' then some (char.toNat - 87)
  else if 'A' ≤ char ∧ char ≤ 'F' then some (char.toNat - 55)
  else none

/-- Whether a character is a hexadecimal digit. -/
def isDigit (char : Char) : Bool :=
  (value? char).isSome

def encodeByte (byte : UInt8) : List Char :=
  [digit (byte.toNat / 16), digit (byte.toNat % 16)]

def encode (bytes : List UInt8) : List Char :=
  bytes.flatMap encodeByte

def decode? : List Char → Option (List UInt8)
  | [] => some []
  | [_] => none
  | high :: low :: rest => do
    let high ← value? high
    let low ← value? low
    let bytes ← decode? rest
    return UInt8.ofNat (16 * high + low) :: bytes

theorem length_encode (bytes : List UInt8) : (encode bytes).length = 2 * bytes.length := by
  induction bytes with
  | nil => rfl
  | cons byte rest ih =>
    simp only [encode, List.flatMap_cons, List.length_append] at ih ⊢
    rw [ih]
    simp [encodeByte]
    omega

end StoreGate.Hexadecimal
