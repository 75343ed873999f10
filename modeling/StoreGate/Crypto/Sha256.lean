import StoreGate.Crypto.Words
/-!
# SHA-256 and its message authentication code

The hash function of FIPS 180-4, and HMAC of RFC 2104 over it.
-/

namespace StoreGate.Crypto.Sha256

/-- The eight working words. -/
structure State where
  a : UInt32
  b : UInt32
  c : UInt32
  d : UInt32
  e : UInt32
  f : UInt32
  g : UInt32
  h : UInt32

def initial : State :=
  ⟨0x6a09e667, 0xbb67ae85, 0x3c6ef372, 0xa54ff53a, 0x510e527f, 0x9b05688c, 0x1f83d9ab, 0x5be0cd19⟩

def roundConstants : List UInt32 :=
  [0x428a2f98, 0x71374491, 0xb5c0fbcf, 0xe9b5dba5, 0x3956c25b, 0x59f111f1, 0x923f82a4, 0xab1c5ed5,
    0xd807aa98, 0x12835b01, 0x243185be, 0x550c7dc3, 0x72be5d74, 0x80deb1fe, 0x9bdc06a7, 0xc19bf174,
    0xe49b69c1, 0xefbe4786, 0x0fc19dc6, 0x240ca1cc, 0x2de92c6f, 0x4a7484aa, 0x5cb0a9dc, 0x76f988da,
    0x983e5152, 0xa831c66d, 0xb00327c8, 0xbf597fc7, 0xc6e00bf3, 0xd5a79147, 0x06ca6351, 0x14292967,
    0x27b70a85, 0x2e1b2138, 0x4d2c6dfc, 0x53380d13, 0x650a7354, 0x766a0abb, 0x81c2c92e, 0x92722c85,
    0xa2bfe8a1, 0xa81a664b, 0xc24b8b70, 0xc76c51a3, 0xd192e819, 0xd6990624, 0xf40e3585, 0x106aa070,
    0x19a4c116, 0x1e376c08, 0x2748774c, 0x34b0bcb5, 0x391c0cb3, 0x4ed8aa4a, 0x5b9cca4f, 0x682e6ff3,
    0x748f82ee, 0x78a5636f, 0x84c87814, 0x8cc70208, 0x90befffa, 0xa4506ceb, 0xbef9a3f7, 0xc67178f2]

def rotateRight (word count : UInt32) : UInt32 :=
  word >>> count ||| word <<< (32 - count)

/-- The word that follows the given ones, the latest of which comes first. -/
def nextWord (words : List UInt32) : UInt32 :=
  let early := words.getD 14 0
  let late := words.getD 1 0
  let small := rotateRight early 7 ^^^ rotateRight early 18 ^^^ early >>> 3
  let large := rotateRight late 17 ^^^ rotateRight late 19 ^^^ late >>> 10
  words.getD 15 0 + small + words.getD 6 0 + large

/-- Adds words to a schedule whose latest word comes first. -/
def extend : (count : Nat) → List UInt32 → List UInt32
  | 0, words => words
  | count + 1, words => extend count (nextWord words :: words)

/-- The message schedule of a block. -/
def schedule (block : List UInt8) : List UInt32 :=
  let words := (blocks 4 block).map fun bytes => UInt32.ofNat (bigEndian bytes)
  (extend 48 words.reverse).reverse

def round (state : State) (constant word : UInt32) : State :=
  let mixed := rotateRight state.e 6 ^^^ rotateRight state.e 11 ^^^ rotateRight state.e 25
  let choice := (state.e &&& state.f) ^^^ (~~~state.e &&& state.g)
  let first := state.h + mixed + choice + constant + word
  let turned := rotateRight state.a 2 ^^^ rotateRight state.a 13 ^^^ rotateRight state.a 22
  let majority := (state.a &&& state.b) ^^^ (state.a &&& state.c) ^^^ (state.b &&& state.c)
  ⟨first + turned + majority, state.a, state.b, state.c, state.d + first, state.e, state.f, state.g⟩

/-- Takes one block into the chain value. -/
def compress (chain : State) (block : List UInt8) : State :=
  let final := (roundConstants.zip (schedule block)).foldl
    (fun state pair => round state pair.1 pair.2) chain
  ⟨chain.a + final.a, chain.b + final.b, chain.c + final.c, chain.d + final.d, chain.e + final.e,
    chain.f + final.f, chain.g + final.g, chain.h + final.h⟩

/-- A message with its end mark and its length in bits, in whole blocks. -/
def padded (message : List UInt8) : List UInt8 :=
  message ++ 0x80 :: List.replicate ((119 - message.length % 64) % 64) 0 ++
    bigEndianBytes 8 (8 * message.length)

def State.bytes (state : State) : List UInt8 :=
  [state.a, state.b, state.c, state.d, state.e, state.f, state.g, state.h].flatMap fun word =>
    bigEndianBytes 4 word.toNat

/-- The digest of a message, 32 bytes. -/
def digest (message : List UInt8) : List UInt8 :=
  ((blocks 64 (padded message)).foldl compress initial).bytes

theorem length_digest (message : List UInt8) : (digest message).length = 32 := by
  simp [digest, State.bytes, List.flatMap_cons, length_bigEndianBytes]

/-- The key of a message authentication code as one block. -/
def keyBlock (key : List UInt8) : List UInt8 :=
  let short := if 64 < key.length then digest key else key
  short ++ List.replicate (64 - short.length) 0

/-- The code that authenticates a message under a key, 32 bytes. -/
def authenticate (key message : List UInt8) : List UInt8 :=
  let block := keyBlock key
  digest (block.map (· ^^^ 0x5c) ++ digest (block.map (· ^^^ 0x36) ++ message))

theorem length_authenticate (key message : List UInt8) : (authenticate key message).length = 32 :=
  length_digest _

end StoreGate.Crypto.Sha256
