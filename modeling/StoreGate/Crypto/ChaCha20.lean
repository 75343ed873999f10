import StoreGate.Crypto.Words
/-!
# ChaCha20 and HChaCha20

The block function of RFC 8439, the stream of key bytes made of its blocks, and the derivation of a
subkey from a key and the first sixteen bytes of a long nonce.
-/

namespace StoreGate.Crypto.ChaCha20

abbrev State := Vector UInt32 16

def rotateLeft (word count : UInt32) : UInt32 :=
  word <<< count ||| word >>> (32 - count)

def quarterRound (a b c d : Fin 16) (state : State) : State :=
  let state := put state a (state.get a + state.get b)
  let state := put state d (rotateLeft (state.get d ^^^ state.get a) 16)
  let state := put state c (state.get c + state.get d)
  let state := put state b (rotateLeft (state.get b ^^^ state.get c) 12)
  let state := put state a (state.get a + state.get b)
  let state := put state d (rotateLeft (state.get d ^^^ state.get a) 8)
  let state := put state c (state.get c + state.get d)
  put state b (rotateLeft (state.get b ^^^ state.get c) 7)

/-- The place in a row and a column of the state, which is a square; columns go round. -/
def place (row column : Nat) : Fin 16 :=
  ⟨(4 * row + column % 4) % 16, Nat.mod_lt _ (by decide)⟩

/-- Mixes four words, one of each row. Each is a number of columns further than the one before. -/
def mixRows (shift : Nat) (state : State) (column : Nat) : State :=
  quarterRound (place 0 column) (place 1 (column + shift)) (place 2 (column + 2 * shift))
    (place 3 (column + 3 * shift)) state

/-- A round on the columns and a round on the diagonals. -/
def doubleRound (state : State) : State :=
  [0, 1, 2, 3].foldl (mixRows 1) ([0, 1, 2, 3].foldl (mixRows 0) state)

/-- Twenty rounds. -/
def rounds (state : State) : State :=
  Nat.repeat doubleRound 10 state

/-- The state for a key of 32 bytes and sixteen bytes of counter and nonce. -/
def start (key tail : List UInt8) : State :=
  let word (bytes : List UInt8) (index : Nat) : UInt32 :=
    UInt32.ofNat (littleEndian ((bytes.drop (4 * index)).take 4))
  #v[0x61707865, 0x3320646e, 0x79622d32, 0x6b206574, word key 0, word key 1, word key 2, word key 3,
    word key 4, word key 5, word key 6, word key 7, word tail 0, word tail 1, word tail 2,
    word tail 3]

def wordsBytes (words : List UInt32) : List UInt8 :=
  words.flatMap fun word => littleEndianBytes 4 word.toNat

theorem length_wordsBytes (words : List UInt32) : (wordsBytes words).length = 4 * words.length := by
  simp [wordsBytes, List.length_flatMap, length_littleEndianBytes, List.map_const' , Nat.mul_comm]

/-- One block of key bytes, for a nonce of twelve bytes. -/
def block (key nonce : List UInt8) (counter : Nat) : List UInt8 :=
  let state := start key (littleEndianBytes 4 counter ++ nonce)
  wordsBytes (Vector.zipWith (· + ·) (rounds state) state).toList

theorem length_block (key nonce : List UInt8) (counter : Nat) :
    (block key nonce counter).length = 64 := by
  simp [block, length_wordsBytes]

/-- The key bytes of consecutive blocks. -/
def stream (key nonce : List UInt8) : (counter count : Nat) → List UInt8
  | _, 0 => []
  | counter, count + 1 => block key nonce counter ++ stream key nonce (counter + 1) count

theorem length_stream (key nonce : List UInt8) (counter count : Nat) :
    (stream key nonce counter count).length = 64 * count := by
  induction count generalizing counter with
  | zero => rfl
  | succ count ih => simp [stream, ih, length_block]; omega

/-- Adds the key stream to some bytes, from the given block on. -/
def apply (key nonce : List UInt8) (counter : Nat) (bytes : List UInt8) : List UInt8 :=
  List.zipWith (· ^^^ ·) bytes (stream key nonce counter (bytes.length / 64 + 1))

theorem length_apply (key nonce : List UInt8) (counter : Nat) (bytes : List UInt8) :
    (apply key nonce counter bytes).length = bytes.length := by
  simp only [apply, List.length_zipWith, length_stream]
  omega

/-- The subkey for the first sixteen bytes of a long nonce. -/
def subkey (key nonce : List UInt8) : List UInt8 :=
  let words := (rounds (start key nonce)).toList
  wordsBytes (words.take 4 ++ words.drop 12)

end StoreGate.Crypto.ChaCha20
