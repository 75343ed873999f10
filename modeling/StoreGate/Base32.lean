/-!
# Base32

Eight symbols of the alphabet of RFC 4648 write five bytes. Only texts of whole groups are read, and
no padding.
-/

namespace StoreGate.Base32

/-- The value of an uppercase symbol. -/
def value? (char : Char) : Option Nat :=
  if 'A' ≤ char ∧ char ≤ 'Z' then some (char.toNat - 65)
  else if '2' ≤ char ∧ char ≤ '7' then some (char.toNat - 24)
  else none

/-- The five bytes of a group of eight values. -/
def groupBytes (values : List Nat) : List UInt8 :=
  let number := values.foldl (fun sum value => 32 * sum + value) 0
  [4294967296, 16777216, 65536, 256, 1].map fun unit => UInt8.ofNat (number / unit)

def decode? : List Char → Option (List UInt8)
  | [] => some []
  | a :: b :: c :: d :: e :: f :: g :: h :: rest => do
    let values ← [a, b, c, d, e, f, g, h].mapM value?
    return groupBytes values ++ (← decode? rest)
  | _ => none

end StoreGate.Base32
