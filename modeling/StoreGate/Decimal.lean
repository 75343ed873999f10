import StoreGate.Bits
/-!
# Numbers in decimal digits

Whole numbers of limited size as texts of digits. A plus sign in front is allowed, and for signed
numbers a minus sign; anything else, and a number that is too large, is refused.
-/

namespace StoreGate.Decimal

/-- The number that some digits write, of which there must be one. -/
def digits? (text : List Char) : Option Nat :=
  if text.isEmpty then none
  else if text.all Char.isDigit then some (Nat.ofDigitChars 10 text 0)
  else none

/-- A number of at most some bits. -/
def natural? (bits : Nat) (text : String) : Option Nat := do
  let value ← match text.toList with
    | '+' :: digits => digits? digits
    | digits => digits? digits
  if value < bitLimit bits then some value else none

/-- A signed number of 64 bits. -/
def signed? (text : String) : Option Int := do
  let value : Int ← match text.toList with
    | '+' :: digits => (digits? digits).map Int.ofNat
    | '-' :: digits => (digits? digits).map fun value => -Int.ofNat value
    | digits => (digits? digits).map Int.ofNat
  if -bitLimit 63 ≤ value ∧ value < bitLimit 63 then some value else none

end StoreGate.Decimal
