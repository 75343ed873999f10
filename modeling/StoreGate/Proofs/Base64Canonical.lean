import Mathlib.Tactic.IntervalCases
import StoreGate.Crypto.SealedBox
import StoreGate.Proofs.Outcomes
/-!
# Base64 texts are canonical

Every list of bytes has exactly one written form.  Three bytes and the four symbols that write them
hold the same twenty-four bits, and the bits of a last symbol that belong to no byte are refused
unless they are zero.  Hence reading takes exactly what writing gives.
-/

namespace StoreGate.Base64Url

section Alphabet

/-- Values below 64 are those without the two highest bits. -/
theorem small_iff {value : UInt8} :
    value < 64 ↔ value.toBitVec[6] = false ∧ value.toBitVec[7] = false := by
  rw [UInt8.lt_iff_toNat_lt, ← UInt8.toNat_toBitVec]
  constructor
  · intro bound
    have highFalse : ∀ place, 6 ≤ place → value.toBitVec.toNat.testBit place = false :=
      fun place high => Nat.testBit_lt_two_pow
        (Nat.lt_of_lt_of_le (m := 2 ^ 6) bound (Nat.pow_le_pow_right (by omega) high))
    exact ⟨highFalse 6 (by decide), highFalse 7 (by decide)⟩
  · rintro ⟨sixth, seventh⟩
    apply Nat.lt_pow_two_of_testBit (n := 6)
    intro place high
    by_cases inside : place < 8
    · interval_cases place
      · exact sixth
      · exact seventh
    · exact Nat.testBit_lt_two_pow (Nat.lt_of_lt_of_le value.toBitVec.isLt
        (Nat.pow_le_pow_right (by omega) (by omega)))

private theorem value?_symbol_ofNat :
    ∀ value : Fin 64, value? (symbol (UInt8.ofNat value)) = some (UInt8.ofNat value) := by
  decide

theorem value?_symbol {value : UInt8} (small : value < 64) :
    value? (symbol value) = some value := by
  have bound : value.toNat < 64 := UInt8.lt_iff_toNat_lt.mp small
  simpa using value?_symbol_ofNat ⟨value.toNat, bound⟩

private theorem symbol_upper {code : Nat} (low : 65 ≤ code) (high : code ≤ 90) :
    symbol (UInt8.ofNat (code - 65)) = Char.ofNat code ∧ UInt8.ofNat (code - 65) < 64 := by
  interval_cases code <;> exact ⟨rfl, by decide⟩

private theorem symbol_lower {code : Nat} (low : 97 ≤ code) (high : code ≤ 122) :
    symbol (UInt8.ofNat (code - 71)) = Char.ofNat code ∧ UInt8.ofNat (code - 71) < 64 := by
  interval_cases code <;> exact ⟨rfl, by decide⟩

private theorem symbol_digit {code : Nat} (low : 48 ≤ code) (high : code ≤ 57) :
    symbol (UInt8.ofNat (code + 4)) = Char.ofNat code ∧ UInt8.ofNat (code + 4) < 64 := by
  interval_cases code <;> exact ⟨rfl, by decide⟩

/-- A symbol is found again from its value, which is below 64. -/
theorem symbol_of_value? {char : Char} {value : UInt8} (known : value? char = some value) :
    symbol value = char ∧ value < 64 := by
  have ofCode : Char.ofNat char.toNat = char := Char.ofNat_toNat char
  simp only [value?] at known
  split at known
  · rename_i upper
    cases known
    obtain ⟨spelled, small⟩ := symbol_upper upper.1 upper.2
    exact ⟨spelled.trans ofCode, small⟩
  · split at known
    · rename_i lower
      cases known
      obtain ⟨spelled, small⟩ := symbol_lower lower.1 lower.2
      exact ⟨spelled.trans ofCode, small⟩
    · split at known
      · rename_i digit
        cases known
        obtain ⟨spelled, small⟩ := symbol_digit digit.1 digit.2
        exact ⟨spelled.trans ofCode, small⟩
      · split at known
        · rename_i minus
          cases known
          exact ⟨minus.symm, by decide⟩
        · split at known
          · rename_i underscore
            cases known
            exact ⟨underscore.symm, by decide⟩
          · cases known

end Alphabet

section Groups

/-! The first three bytes `a`, `b`, `c` of a text and the values `p`, `q`, `r`, `s` of its first
four symbols, either of them found from the other bit by bit. -/

variable {a b c p q r s : UInt8}

private theorem eq_of_bits {first second : UInt8}
    (same : ∀ place (inside : place < 8), first.toBitVec[place] = second.toBitVec[place]) :
    first = second := by
  apply UInt8.toBitVec_inj.mp
  ext place inside
  exact same place inside

private theorem small_first : a >>> 2 < 64 :=
  small_iff.mpr (by simp)

private theorem small_second : (a &&& 3) <<< 4 ||| b >>> 4 < 64 :=
  small_iff.mpr (by simp)

private theorem small_secondLast : (a &&& 3) <<< 4 < 64 :=
  small_iff.mpr (by simp)

private theorem small_third : (b &&& 15) <<< 2 ||| c >>> 6 < 64 :=
  small_iff.mpr (by simp)

private theorem small_thirdLast : (b &&& 15) <<< 2 < 64 :=
  small_iff.mpr (by simp)

private theorem small_fourth : c &&& 63 < 64 :=
  small_iff.mpr (by simp)

private theorem firstByte : (a >>> 2) <<< 2 ||| ((a &&& 3) <<< 4 ||| b >>> 4) >>> 4 = a := by
  refine eq_of_bits fun place inside => ?_
  interval_cases place <;> simp

private theorem firstByte_last : (a >>> 2) <<< 2 ||| ((a &&& 3) <<< 4) >>> 4 = a := by
  refine eq_of_bits fun place inside => ?_
  interval_cases place <;> simp

private theorem secondByte :
    ((a &&& 3) <<< 4 ||| b >>> 4) <<< 4 ||| ((b &&& 15) <<< 2 ||| c >>> 6) >>> 2 = b := by
  refine eq_of_bits fun place inside => ?_
  interval_cases place <;> simp

private theorem secondByte_last :
    ((a &&& 3) <<< 4 ||| b >>> 4) <<< 4 ||| ((b &&& 15) <<< 2) >>> 2 = b := by
  refine eq_of_bits fun place inside => ?_
  interval_cases place <;> simp

private theorem thirdByte : ((b &&& 15) <<< 2 ||| c >>> 6) <<< 6 ||| (c &&& 63) = c := by
  refine eq_of_bits fun place inside => ?_
  interval_cases place <;> simp

private theorem spare_secondLast : (a &&& 3) <<< 4 &&& 15 = 0 := by
  refine eq_of_bits fun place inside => ?_
  interval_cases place <;> simp

private theorem spare_thirdLast : (b &&& 15) <<< 2 &&& 3 = 0 := by
  refine eq_of_bits fun place inside => ?_
  interval_cases place <;> simp

private theorem firstValue (pSmall : p < 64) (qSmall : q < 64) :
    (p <<< 2 ||| q >>> 4) >>> 2 = p := by
  have pHigh := small_iff.mp pSmall
  have qHigh := small_iff.mp qSmall
  refine eq_of_bits fun place inside => ?_
  interval_cases place <;> simp [pHigh, qHigh]

private theorem secondValue (qSmall : q < 64) (rSmall : r < 64) :
    ((p <<< 2 ||| q >>> 4) &&& 3) <<< 4 ||| (q <<< 4 ||| r >>> 2) >>> 4 = q := by
  have qHigh := small_iff.mp qSmall
  have rHigh := small_iff.mp rSmall
  refine eq_of_bits fun place inside => ?_
  interval_cases place <;> simp [qHigh, rHigh]

private theorem thirdValue (rSmall : r < 64) (sSmall : s < 64) :
    ((q <<< 4 ||| r >>> 2) &&& 15) <<< 2 ||| (r <<< 6 ||| s) >>> 6 = r := by
  have rHigh := small_iff.mp rSmall
  have sHigh := small_iff.mp sSmall
  refine eq_of_bits fun place inside => ?_
  interval_cases place <;> simp [rHigh, sHigh]

private theorem fourthValue (sSmall : s < 64) : (r <<< 6 ||| s) &&& 63 = s := by
  have sHigh := small_iff.mp sSmall
  refine eq_of_bits fun place inside => ?_
  interval_cases place <;> simp [sHigh]

/-- The places at which the spare bits of a value are zero. -/
private theorem bit_of_spare {value mask : UInt8} (spare : value &&& mask = 0) (place : Nat)
    (inside : place < 8) (masked : mask.toBitVec[place] = true) :
    value.toBitVec[place] = false := by
  have bits : (value &&& mask).toBitVec[place] = false := by simp [spare]
  simpa [masked] using bits

private theorem secondValue_last (qSmall : q < 64) (spare : q &&& 15 = 0) :
    ((p <<< 2 ||| q >>> 4) &&& 3) <<< 4 = q := by
  have qHigh := small_iff.mp qSmall
  have qLow := bit_of_spare spare
  refine eq_of_bits fun place inside => ?_
  interval_cases place <;> simp [qHigh, qLow]

private theorem thirdValue_last (rSmall : r < 64) (spare : r &&& 3 = 0) :
    ((q <<< 4 ||| r >>> 2) &&& 15) <<< 2 = r := by
  have rHigh := small_iff.mp rSmall
  have rLow := bit_of_spare spare
  refine eq_of_bits fun place inside => ?_
  interval_cases place <;> simp [rHigh, rLow]

end Groups

section Texts

theorem decodeSymbols_encodeBytes (bytes : List UInt8) :
    decodeSymbols (encodeBytes bytes) = some bytes := by
  fun_induction encodeBytes bytes with
  | case1 => rfl
  | case2 a =>
    simp [decodeSymbols, value?_symbol, small_first, small_secondLast, spare_secondLast,
      firstByte_last]
  | case3 a b =>
    simp [decodeSymbols, value?_symbol, small_first, small_second, small_thirdLast,
      spare_thirdLast, firstByte, secondByte_last]
  | case4 a b c rest ih =>
    simp [decodeSymbols, value?_symbol, small_first, small_second, small_third, small_fourth,
      firstByte, secondByte, thirdByte, ih]

theorem encodeBytes_of_decodeSymbols {symbols : List Char} {bytes : List UInt8}
    (decoded : decodeSymbols symbols = some bytes) : encodeBytes bytes = symbols := by
  fun_induction decodeSymbols symbols generalizing bytes with
  | case1 =>
    cases decoded
    rfl
  | case2 => cases decoded
  | case3 first second =>
    simp only [Option.bind_eq_bind, Option.bind_eq_some_iff] at decoded
    obtain ⟨p, pKnown, q, qKnown, decoded⟩ := decoded
    obtain ⟨rfl, pSmall⟩ := symbol_of_value? pKnown
    obtain ⟨rfl, qSmall⟩ := symbol_of_value? qKnown
    split at decoded
    · rename_i spare
      cases decoded
      simp [encodeBytes, firstValue pSmall qSmall, secondValue_last qSmall spare]
    · cases decoded
  | case4 first second third =>
    simp only [Option.bind_eq_bind, Option.bind_eq_some_iff] at decoded
    obtain ⟨p, pKnown, q, qKnown, r, rKnown, decoded⟩ := decoded
    obtain ⟨rfl, pSmall⟩ := symbol_of_value? pKnown
    obtain ⟨rfl, qSmall⟩ := symbol_of_value? qKnown
    obtain ⟨rfl, rSmall⟩ := symbol_of_value? rKnown
    split at decoded
    · rename_i spare
      cases decoded
      simp [encodeBytes, firstValue pSmall qSmall, secondValue qSmall rSmall,
        thirdValue_last rSmall spare]
    · cases decoded
  | case5 first second third fourth rest ih =>
    simp only [Option.bind_eq_bind, Option.bind_eq_some_iff] at decoded
    obtain ⟨p, pKnown, q, qKnown, r, rKnown, s, sKnown, others, othersKnown, decoded⟩ := decoded
    obtain ⟨rfl, pSmall⟩ := symbol_of_value? pKnown
    obtain ⟨rfl, qSmall⟩ := symbol_of_value? qKnown
    obtain ⟨rfl, rSmall⟩ := symbol_of_value? rKnown
    obtain ⟨rfl, sSmall⟩ := symbol_of_value? sKnown
    cases decoded
    simp [encodeBytes, firstValue pSmall qSmall, secondValue qSmall rSmall,
      thirdValue rSmall sSmall, fourthValue sSmall, ih othersKnown]

theorem decodeSymbols_eq_some_iff {symbols : List Char} {bytes : List UInt8} :
    decodeSymbols symbols = some bytes ↔ symbols = encodeBytes bytes := by
  constructor
  · intro decoded
    exact (encodeBytes_of_decodeSymbols decoded).symm
  · rintro rfl
    exact decodeSymbols_encodeBytes bytes

theorem decode?_eq_some_iff {text : String} {bytes : List UInt8} :
    decode? text = some bytes ↔ text = encode bytes := by
  rw [decode?, decodeSymbols_eq_some_iff, encode, ← String.toList_inj, String.toList_ofList]

theorem decode_eq_ok_iff {text : String} {bytes : List UInt8} :
    decode text = .ok bytes ↔ text = encode bytes := by
  rw [← decode?_eq_some_iff]
  unfold decode
  split <;> simp_all

theorem encode_injective {first second : List UInt8} (same : encode first = encode second) :
    first = second := by
  have decoded : decode? (encode first) = some second := decode?_eq_some_iff.mpr same
  rw [decode?_eq_some_iff.mpr rfl] at decoded
  exact Option.some.inj decoded

/-- All characters of a written form are symbols of the alphabet. -/
theorem isSome_value?_of_mem {bytes : List UInt8} {char : Char}
    (member : char ∈ encodeBytes bytes) : (value? char).isSome := by
  have isSymbol : ∀ value < 64, char = symbol value → (value? char).isSome := by
    rintro value small rfl
    rw [value?_symbol small]
    rfl
  fun_induction encodeBytes bytes with
  | case1 => cases member
  | case2 a =>
    simp only [List.mem_cons, List.not_mem_nil, or_false] at member
    rcases member with same | same
    · exact isSymbol _ small_first same
    · exact isSymbol _ small_secondLast same
  | case3 a b =>
    simp only [List.mem_cons, List.not_mem_nil, or_false] at member
    rcases member with same | same | same
    · exact isSymbol _ small_first same
    · exact isSymbol _ small_second same
    · exact isSymbol _ small_thirdLast same
  | case4 a b c rest ih =>
    simp only [List.mem_cons] at member
    rcases member with same | same | same | same | member
    · exact isSymbol _ small_first same
    · exact isSymbol _ small_second same
    · exact isSymbol _ small_third same
    · exact isSymbol _ small_fourth same
    · exact ih member

theorem not_mem_encodeBytes {char : Char} (foreign : value? char = none) (bytes : List UInt8) :
    char ∉ encodeBytes bytes := by
  intro member
  simpa [foreign] using isSome_value?_of_mem member

end Texts

end StoreGate.Base64Url

namespace StoreGate

theorem decodeBase64_eq_ok_iff {text : String} {bytes : List UInt8} :
    decodeBase64 text = .ok bytes ↔ text = Base64Url.encode bytes := by
  rw [decodeBase64, mapError_eq_ok_iff, Base64Url.decode_eq_ok_iff]

/-- The base64 of a text is the only one that reads as the text. -/
theorem decodeBase64Text_eq_ok_iff {encoded text : String} :
    decodeBase64Text encoded = .ok text ↔ encoded = Base64Url.encode (Utf8.encode text) := by
  simp only [decodeBase64Text, bind_eq_ok_iff, mapError_eq_ok_iff, decodeBase64_eq_ok_iff,
    Utf8.decode_eq_ok_iff]
  constructor
  · rintro ⟨bytes, rfl, rfl⟩
    rfl
  · rintro rfl
    exact ⟨Utf8.encode text, rfl, rfl⟩

end StoreGate
