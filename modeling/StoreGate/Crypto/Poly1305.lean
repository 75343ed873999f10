import StoreGate.Crypto.Words
/-!
# Poly1305

The one-time authenticator of RFC 8439, computed on natural numbers: the blocks of a message are
the coefficients of a polynomial, evaluated at a clamped key modulo the prime 2 ^ 130 - 5.
-/

namespace StoreGate.Crypto.Poly1305

def prime : Nat := Nat.pow 2 130 - 5

/-- The bits of the multiplier that a key may set. -/
def clampMask : Nat := 0x0ffffffc0ffffffc0ffffffc0fffffff

/-- One more block of the message; its end is marked by a one above its last byte. -/
def step (multiplier sum : Nat) (block : List UInt8) : Nat :=
  (sum + littleEndian block + Nat.pow 256 block.length) * multiplier % prime

/-- The tag of a message under a one-time key of 32 bytes. -/
def tag (key message : List UInt8) : List UInt8 :=
  let multiplier := littleEndian (key.take 16) &&& clampMask
  let sum := (blocks 16 message).foldl (step multiplier) 0
  littleEndianBytes 16 (sum + littleEndian (key.drop 16))

theorem length_tag (key message : List UInt8) : (tag key message).length = 16 :=
  length_littleEndianBytes _ _

end StoreGate.Crypto.Poly1305
