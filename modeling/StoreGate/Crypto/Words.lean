/-!
# Words and blocks of bytes

Numbers as bytes in either order, and the division of a message into blocks.
-/

namespace StoreGate.Crypto

/-- The number whose bytes are given, the least significant one first. -/
def littleEndian : List UInt8 → Nat
  | [] => 0
  | byte :: rest => byte.toNat + 256 * littleEndian rest

/-- The number whose bytes are given, the most significant one first. -/
def bigEndian (bytes : List UInt8) : Nat :=
  littleEndian bytes.reverse

/-- Some low bytes of a number, the least significant one first. -/
def littleEndianBytes : (count : Nat) → (value : Nat) → List UInt8
  | 0, _ => []
  | count + 1, value => UInt8.ofNat value :: littleEndianBytes count (value / 256)

/-- Some low bytes of a number, the most significant one first. -/
def bigEndianBytes (count value : Nat) : List UInt8 :=
  (littleEndianBytes count value).reverse

theorem length_littleEndianBytes (count value : Nat) :
    (littleEndianBytes count value).length = count := by
  induction count generalizing value with
  | zero => rfl
  | succ count ih => simp [littleEndianBytes, ih]

theorem length_bigEndianBytes (count value : Nat) :
    (bigEndianBytes count value).length = count := by
  simp [bigEndianBytes, length_littleEndianBytes]

/-- Consecutive blocks of a size; the last one may be shorter. -/
def blocks (size : Nat) (bytes : List UInt8) : List (List UInt8) :=
  if size = 0 ∨ bytes = [] then []
  else bytes.take size :: blocks size (bytes.drop size)
termination_by bytes.length
decreasing_by
  rename_i some
  have positive : 0 < bytes.length := List.length_pos_iff.2 fun empty => some (.inr empty)
  simp only [List.length_drop]
  omega

/-- A vector with another word at an index. -/
def put {Word : Type} {size : Nat} (words : Vector Word size) (index : Fin size) (word : Word) :
    Vector Word size :=
  words.set index word index.isLt

end StoreGate.Crypto
