/-!
# Punycode

Domain labels with characters beyond ASCII as letters, digits and hyphens (RFC 3492): the ASCII
characters come first, and the others follow as distances, in numbers whose digits have thresholds
that adapt to the text.
-/

namespace StoreGate.Url.Punycode

def digitChar (digit : Nat) : Char :=
  if digit < 26 then Char.ofNat (97 + digit) else Char.ofNat (22 + digit)

def digitValue? (char : Char) : Option Nat :=
  if 'a' ≤ char ∧ char ≤ 'z' then some (char.toNat - 97)
  else if 'A' ≤ char ∧ char ≤ 'Z' then some (char.toNat - 65)
  else if '0' ≤ char ∧ char ≤ '9' then some (char.toNat - 22)
  else none

/-- The threshold of the digit at a place that counts in steps of 36. -/
def threshold (place bias : Nat) : Nat :=
  if place ≤ bias then 1 else min 26 (place - bias)

/-- How often a distance is divided before it is small, and what is left of it. -/
def settle : (fuel : Nat) → (distance steps : Nat) → Nat × Nat
  | 0, distance, steps => (distance, steps)
  | fuel + 1, distance, steps =>
    if 455 < distance then settle fuel (distance / 35) (steps + 36) else (distance, steps)

/-- The bias after a distance, given how many characters are known. -/
def adapt (distance count : Nat) (isFirst : Bool) : Nat :=
  let halved := if isFirst then distance / 700 else distance / 2
  let (rest, steps) := settle 32 (halved + halved / count) 0
  steps + 36 * rest / (rest + 38)

/-- A distance in digits. -/
def encodeDistance (bias : Nat) : (fuel place distance : Nat) → List Char
  | 0, _, _ => []
  | fuel + 1, place, distance =>
    let limit := threshold place bias
    if distance < limit then [digitChar distance]
    else
      digitChar (limit + (distance - limit) % (36 - limit)) ::
        encodeDistance bias fuel (place + 36) ((distance - limit) / (36 - limit))

/-- Where the encoding of a label stands. -/
structure State where
  output : List Char
  distance : Nat
  bias : Nat
  handled : Nat

/-- Passes over the characters of a label for one code point. -/
def encodePass (basic current : Nat) (state : State) : List Nat → State
  | [] => state
  | code :: rest =>
    if code < current then
      encodePass basic current { state with distance := state.distance + 1 } rest
    else if code = current then
      let digits := encodeDistance state.bias 32 36 state.distance
      encodePass basic current
        ⟨state.output ++ digits, 0, adapt state.distance (state.handled + 1) (state.handled = basic),
          state.handled + 1⟩ rest
    else encodePass basic current state rest

/-- Encodes the code points of a label in ascending order. -/
def encodeRounds (basic : Nat) (codes : List Nat) : (pending : List Nat) → (next : Nat) → State →
    State
  | [], _, state => state
  | current :: pending, next, state =>
    let skipped := { state with distance := state.distance + (current - next) * (state.handled + 1) }
    let passed := encodePass basic current skipped codes
    encodeRounds basic codes pending (current + 1) { passed with distance := passed.distance + 1 }

/-- The distinct numbers of a list in ascending order. -/
def ascending (codes : List Nat) : List Nat :=
  (codes.mergeSort (· ≤ ·)).eraseDups

def encode (label : List Char) : List Char :=
  let codes := label.map Char.toNat
  let basic := label.filter fun char => char.toNat < 0x80
  let start := if basic.isEmpty then [] else basic ++ ['-']
  let pending := ascending (codes.filter (0x80 ≤ ·))
  (encodeRounds basic.length codes pending 0x80 ⟨start, 0, 72, basic.length⟩).output

/-- Reads one distance: its value and the digits that follow it. -/
def decodeDistance (bias : Nat) : List Char → (place weight value : Nat) →
    Option (Nat × List Char)
  | [], _, _, _ => none
  | char :: rest, place, weight, value => do
    let digit ← digitValue? char
    let limit := threshold place bias
    let value := value + digit * weight
    if digit < limit then some (value, rest)
    else decodeDistance bias rest (place + 36) (weight * (36 - limit)) value

/-- Reads the distances of a label. -/
def decodeRounds : (fuel : Nat) → List Char → (known : List Nat) → (next index bias : Nat) →
    (isFirst : Bool) → Option (List Nat)
  | 0, _, _, _, _, _, _ => none
  | _ + 1, [], known, _, _, _, _ => some known
  | fuel + 1, digits, known, next, index, bias, isFirst => do
    let (distance, rest) ← decodeDistance bias digits 36 1 0
    let count := known.length + 1
    let code := next + (index + distance) / count
    let place := (index + distance) % count
    if code > 0x10ffff ∨ (0xd800 ≤ code ∧ code ≤ 0xdfff) then none
    else
      decodeRounds fuel rest (known.take place ++ code :: known.drop place) code (place + 1)
        (adapt distance count isFirst) false

/-- The label that was encoded. A last hyphen stands behind characters of the label, never in front. -/
def decode? (text : List Char) : Option (List Char) := do
  let after := (text.reverse.takeWhile (· ≠ '-')).reverse
  let basic := text.take (text.length - after.length - 1)
  if text = '-' :: after ∨ basic.any (0x80 ≤ ·.toNat) then none
  let codes ← decodeRounds (after.length + 1) after (basic.map Char.toNat) 0x80 0 72 true
  return codes.map Char.ofNat

end StoreGate.Url.Punycode
