import StoreGate.Crypto.Words
/-!
# BLAKE2b

The hash function of RFC 7693 without a key, for digests of up to 64 bytes.
-/

namespace StoreGate.Crypto.Blake2b

def initial : Vector UInt64 8 :=
  #v[0x6a09e667f3bcc908, 0xbb67ae8584caa73b, 0x3c6ef372fe94f82b, 0xa54ff53a5f1d36f1,
    0x510e527fade682d1, 0x9b05688c2b3e6c1f, 0x1f83d9abfb41bd6b, 0x5be0cd19137e2179]

/-- The order in which the words of a block are mixed in, one line for each round. -/
def schedule : List (Vector (Fin 16) 16) :=
  [#v[0, 1, 2, 3, 4, 5, 6, 7, 8, 9, 10, 11, 12, 13, 14, 15],
    #v[14, 10, 4, 8, 9, 15, 13, 6, 1, 12, 0, 2, 11, 7, 5, 3],
    #v[11, 8, 12, 0, 5, 2, 15, 13, 10, 14, 3, 6, 7, 1, 9, 4],
    #v[7, 9, 3, 1, 13, 12, 11, 14, 2, 6, 5, 10, 4, 0, 15, 8],
    #v[9, 0, 5, 7, 2, 4, 10, 15, 14, 1, 11, 12, 6, 8, 3, 13],
    #v[2, 12, 6, 10, 0, 11, 8, 3, 4, 13, 7, 5, 15, 14, 1, 9],
    #v[12, 5, 1, 15, 14, 13, 4, 10, 0, 7, 6, 3, 9, 2, 8, 11],
    #v[13, 11, 7, 14, 12, 1, 3, 9, 5, 0, 15, 4, 8, 6, 2, 10],
    #v[6, 15, 14, 9, 11, 3, 0, 8, 12, 2, 13, 7, 1, 4, 10, 5],
    #v[10, 2, 8, 4, 7, 6, 1, 5, 15, 11, 9, 14, 3, 12, 13, 0],
    #v[0, 1, 2, 3, 4, 5, 6, 7, 8, 9, 10, 11, 12, 13, 14, 15],
    #v[14, 10, 4, 8, 9, 15, 13, 6, 1, 12, 0, 2, 11, 7, 5, 3]]

def rotateRight (word : UInt64) (count : UInt64) : UInt64 :=
  word >>> count ||| word <<< (64 - count)

/-- Mixes two words into four places of the working state. -/
def mix (state : Vector UInt64 16) (a b c d : Fin 16) (x y : UInt64) : Vector UInt64 16 :=
  let state := put state a (state.get a + state.get b + x)
  let state := put state d (rotateRight (state.get d ^^^ state.get a) 32)
  let state := put state c (state.get c + state.get d)
  let state := put state b (rotateRight (state.get b ^^^ state.get c) 24)
  let state := put state a (state.get a + state.get b + y)
  let state := put state d (rotateRight (state.get d ^^^ state.get a) 16)
  let state := put state c (state.get c + state.get d)
  put state b (rotateRight (state.get b ^^^ state.get c) 63)

/-- One round: the columns, then the diagonals. -/
def round (block : Vector UInt64 16) (state : Vector UInt64 16) (order : Vector (Fin 16) 16) :
    Vector UInt64 16 :=
  let word (index : Fin 16) : UInt64 := block[order[index]]
  let state := mix state 0 4 8 12 (word 0) (word 1)
  let state := mix state 1 5 9 13 (word 2) (word 3)
  let state := mix state 2 6 10 14 (word 4) (word 5)
  let state := mix state 3 7 11 15 (word 6) (word 7)
  let state := mix state 0 5 10 15 (word 8) (word 9)
  let state := mix state 1 6 11 12 (word 10) (word 11)
  let state := mix state 2 7 8 13 (word 12) (word 13)
  mix state 3 4 9 14 (word 14) (word 15)

/-- The sixteen words of a block; a short block is filled up with zeros. -/
def words (block : List UInt8) : Vector UInt64 16 :=
  Vector.ofFn fun index => UInt64.ofNat (littleEndian ((block.drop (8 * index)).take 8))

/-- Takes one block into the chain value. The number of bytes hashed so far is below 2 ^ 64. -/
def compress (chain : Vector UInt64 8) (hashed : Nat) (last : Bool) (block : List UInt8) :
    Vector UInt64 8 :=
  let state : Vector UInt64 16 := chain ++ initial
  let state := state.set 12 (state[12] ^^^ UInt64.ofNat hashed)
  let state := if last then state.set 14 (~~~state[14]) else state
  let mixed := schedule.foldl (round (words block)) state
  Vector.ofFn fun index =>
    chain.get index ^^^ mixed.get (index.castLE (by omega)) ^^^ mixed.get (index.natAdd 8)

/-- Takes the blocks of a message into the chain value; the last one is marked. -/
def absorb (chain : Vector UInt64 8) (hashed : Nat) : List (List UInt8) → Vector UInt64 8
  | [] => compress chain hashed true []
  | [block] => compress chain (hashed + block.length) true block
  | block :: rest => absorb (compress chain (hashed + block.length) false block)
      (hashed + block.length) rest

/-- The digest of a message, of the given number of bytes. -/
def digest (size : Nat) (message : List UInt8) : List UInt8 :=
  let chain := initial.set 0 (initial[0] ^^^ 0x01010000 ^^^ UInt64.ofNat size)
  ((absorb chain 0 (blocks 128 message)).toList.flatMap fun word =>
    littleEndianBytes 8 word.toNat).take size

theorem length_digest {size : Nat} (bound : size ≤ 64) (message : List UInt8) :
    (digest size message).length = size := by
  simp only [digest, List.length_take, List.length_flatMap, length_littleEndianBytes,
    List.map_const' , List.sum_replicate_nat, Vector.length_toList]
  omega

end StoreGate.Crypto.Blake2b
