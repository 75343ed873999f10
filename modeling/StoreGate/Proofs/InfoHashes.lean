import StoreGate.Magnet
import StoreGate.Proofs.AsciiCase
import StoreGate.Proofs.PercentEncodings
/-!
# Spellings of info hashes

Twenty bytes are spelled with forty hexadecimal digits or with thirty-two symbols of base32, and
either spelling may use capitals or not.  All of them are read as the same bytes, which are written
with lowercase digits.
-/

namespace StoreGate

theorem ascii_of_isAlphanum {char : Char} (isAlphanum : char.isAlphanum = true) :
    char.toNat < 128 := by
  rcases Bool.or_eq_true_iff.mp isAlphanum with isAlpha | isDigit
  · rcases isAlpha_iff.mp isAlpha with isUpper | isLower
    · exact ascii_of_le (isUpper_iff.mp isUpper).2 (by decide)
    · exact ascii_of_le (isLower_iff.mp isLower).2 (by decide)
  · have bound : char ≤ '9' := of_decide_eq_true (Bool.and_eq_true_iff.mp isDigit).2
    exact ascii_of_le bound (by decide)

theorem utf8ByteSize_of_ascii {text : String} (ascii : ∀ char ∈ text.toList, char.toNat < 0x80) :
    text.utf8ByteSize = text.toList.length := by
  have bytes : text.utf8ByteSize = (Utf8.encode text).length := rfl
  rw [bytes, ← Utf8.encode_toList]
  exact (congrArg List.length (Json.written_of_ascii ascii)).trans (List.length_map _)

namespace Hexadecimal

theorem ascii_of_isDigit {char : Char} (digit : isDigit char = true) : char.toNat < 128 := by
  unfold isDigit value? at digit
  split at digit
  · exact ascii_of_le (‹_ ∧ _›).2 (by decide)
  · split at digit
    · exact ascii_of_le (‹_ ∧ _›).2 (by decide)
    · split at digit
      · exact ascii_of_le (‹_ ∧ _›).2 (by decide)
      · cases digit

def digits : List Char := "0123456789abcdef".toList

/-- Digits stay digits in capitals, and come back in lowercase. -/
theorem of_mem_digits {char : Char} (member : char ∈ digits) :
    (isDigit char = true ∧ isDigit char.toUpper = true) ∧
      char.toLower = char ∧ char.toUpper.toLower = char := by
  have all : digits.all (fun char => (isDigit char && isDigit char.toUpper) &&
      (char.toLower == char && char.toUpper.toLower == char)) = true := by decide
  simpa using List.all_eq_true.mp all char member

theorem toLower_mem_digits {char : Char} (digit : isDigit char = true) : char.toLower ∈ digits :=
  of_ascii (fun char => isDigit char = true → char.toLower ∈ digits) (by decide)
    (ascii_of_isDigit digit) digit

theorem digit_mem_digits : ∀ value : Fin 16, digit value ∈ digits := by
  decide

theorem mem_digits_of_mem_encode {bytes : List UInt8} {char : Char} (member : char ∈ encode bytes) :
    char ∈ digits := by
  obtain ⟨byte, _, isDigit⟩ := List.mem_flatMap.mp member
  have bound := byte.toNat_lt
  have high := digit_mem_digits ⟨byte.toNat / 16, by omega⟩
  have low := digit_mem_digits ⟨byte.toNat % 16, Nat.mod_lt _ (by decide)⟩
  rcases List.mem_cons.mp isDigit with rfl | last
  · exact high
  · rcases List.mem_cons.mp last with rfl | none
    · exact low
    · cases none

end Hexadecimal

namespace Base32

/-- The alphabet of RFC 4648. -/
def alphabet : List Char := "ABCDEFGHIJKLMNOPQRSTUVWXYZ234567".toList

def symbol (value : Nat) : Char := alphabet.getD value 'A'

/-- Symbols are capitals, and come back from lowercase. -/
theorem of_mem_alphabet {char : Char} (member : char ∈ alphabet) :
    char.toUpper = char ∧ char.toLower.toUpper = char := by
  have all : alphabet.all (fun char => char.toUpper == char && char.toLower.toUpper == char) =
      true := by decide
  simpa using List.all_eq_true.mp all char member

theorem symbol_mem_alphabet : ∀ value : Fin 32, symbol value ∈ alphabet := by
  decide

def groupNumber (bytes : List UInt8) : Nat :=
  bytes.foldl (fun sum byte => 256 * sum + byte.toNat) 0

/-- The values of the eight symbols of a group, each of five bits, the highest ones first. -/
def groupValues (bytes : List UInt8) : List Nat :=
  [34359738368, 1073741824, 33554432, 1048576, 32768, 1024, 32, 1].map fun unit =>
    groupNumber bytes / unit % 32

/-- Whole groups of five bytes, each with eight symbols. -/
def encode : List UInt8 → List Char
  | a :: b :: c :: d :: e :: rest => (groupValues [a, b, c, d, e]).map symbol ++ encode rest
  | _ => []

theorem lt_of_mem_groupValues {bytes : List UInt8} {value : Nat}
    (member : value ∈ groupValues bytes) : value < 32 := by
  obtain ⟨unit, _, rfl⟩ := List.mem_map.mp member
  exact Nat.mod_lt _ (by decide)

theorem mem_alphabet_of_mem_encode {bytes : List UInt8} {char : Char}
    (member : char ∈ encode bytes) : char ∈ alphabet := by
  fun_induction encode bytes with
  | case1 a b c d e rest ih =>
      rcases List.mem_append.mp member with own | other
      · obtain ⟨value, isValue, rfl⟩ := List.mem_map.mp own
        exact symbol_mem_alphabet ⟨value, lt_of_mem_groupValues isValue⟩
      · exact ih other
  | case2 => cases member

theorem value?_symbol : ∀ value : Fin 32, value? (symbol value) = some value.val := by
  decide

theorem mapM_value?_symbol {values : List Nat} (small : ∀ value ∈ values, value < 32) :
    (values.map symbol).mapM value? = some values := by
  induction values with
  | nil => rfl
  | cons value values ih =>
      have here := value?_symbol ⟨value, small value List.mem_cons_self⟩
      rw [List.map_cons, List.mapM_cons, here,
        ih fun other member => small other (List.mem_cons_of_mem _ member)]
      rfl

theorem groupBytes_groupValues (a b c d e : UInt8) :
    groupBytes (groupValues [a, b, c, d, e]) = [a, b, c, d, e] := by
  have bounds := And.intro a.toNat_lt (And.intro b.toNat_lt
    (And.intro c.toNat_lt (And.intro d.toNat_lt e.toNat_lt)))
  let number := groupNumber [a, b, c, d, e]
  have written : number = 256 * (256 * (256 * (256 * a.toNat + b.toNat) + c.toNat) + d.toNat) +
      e.toNat := by
    simp [number, groupNumber]
  -- The eight values are the digits of the number to the base thirty-two.
  have read : (groupValues [a, b, c, d, e]).foldl (fun sum value => 32 * sum + value) 0 =
      number := by
    simp only [groupValues, List.map_cons, List.map_nil, List.foldl_cons, List.foldl_nil]
    omega
  have byte : ∀ (own : UInt8) (unit : Nat), number / unit % 256 = own.toNat →
      UInt8.ofNat (number / unit) = own := by
    intro own unit same
    apply UInt8.toNat_inj.mp
    rw [UInt8.toNat_ofNat', same]
  rw [groupBytes, read]
  simp only [List.map_cons, List.map_nil]
  rw [byte a _ (by omega), byte b _ (by omega), byte c _ (by omega), byte d _ (by omega),
    byte e _ (by omega)]

theorem decode?_encode {bytes : List UInt8} (whole : bytes.length % 5 = 0) :
    decode? (encode bytes) = some bytes := by
  fun_induction encode bytes with
  | case1 a b c d e rest ih =>
      have restWhole : rest.length % 5 = 0 := by
        simp only [List.length_cons] at whole
        omega
      have group : decode? ((groupValues [a, b, c, d, e]).map symbol ++ encode rest) =
          ((groupValues [a, b, c, d, e]).map symbol).mapM value? >>= fun values =>
            decode? (encode rest) >>= fun others => some (groupBytes values ++ others) := rfl
      rw [group, mapM_value?_symbol fun _ => lt_of_mem_groupValues, ih restWhole]
      exact congrArg (fun own => some (own ++ rest)) (groupBytes_groupValues a b c d e)
  | case2 bytes short =>
      match bytes with
      | [] => rfl
      | [_] | [_, _] | [_, _, _] | [_, _, _, _] => cases whole
      | a :: b :: c :: d :: e :: rest => exact absurd rfl (short a b c d e rest)

example : String.ofList (encode [0x66, 0x6f, 0x6f, 0x62, 0x61]) = "MZXW6YTB" := by decide

theorem ascii_of_value? {char : Char} {value : Nat} (known : value? char = some value) :
    char.toNat < 128 := by
  unfold value? at known
  split at known
  · exact ascii_of_le (‹_ ∧ _›).2 (by decide)
  · split at known
    · exact ascii_of_le (‹_ ∧ _›).2 (by decide)
    · cases known

theorem ascii_of_mapM {characters : List Char} {values : List Nat}
    (read : characters.mapM value? = some values) : ∀ char ∈ characters, char.toNat < 128 := by
  induction characters generalizing values with
  | nil => simp
  | cons char characters ih =>
      rw [List.mapM_cons] at read
      obtain ⟨value, known, read⟩ := Option.bind_eq_some_iff.mp read
      obtain ⟨others, readOthers, _⟩ := Option.bind_eq_some_iff.mp read
      exact List.forall_mem_cons.mpr ⟨ascii_of_value? known, ih readOthers⟩

/-- Only ASCII texts are read, and eight symbols as five bytes. -/
theorem shape_of_decode? {text : List Char} {bytes : List UInt8}
    (read : decode? text = some bytes) :
    (∀ char ∈ text, char.toNat < 128) ∧ 5 * text.length = 8 * bytes.length := by
  fun_induction decode? text generalizing bytes with
  | case1 =>
      cases read
      exact ⟨by simp, rfl⟩
  | case2 a b c d e f g h rest ih =>
      obtain ⟨values, known, read⟩ := Option.bind_eq_some_iff.mp read
      obtain ⟨others, readOthers, same⟩ := Option.bind_eq_some_iff.mp read
      cases same
      obtain ⟨ascii, lengths⟩ := ih readOthers
      refine ⟨fun char member => ?_, ?_⟩
      · rcases List.mem_append.mp (show char ∈ [a, b, c, d, e, f, g, h] ++ rest from member) with
          own | other
        · exact ascii_of_mapM known char own
        · exact ascii char other
      · simp only [groupBytes, List.length_cons, List.length_append, List.length_map,
          List.length_nil] at lengths ⊢
        omega
  | case3 => cases read

end Base32

namespace Magnet

/-- Whether a text is an info hash in its canonical form. -/
structure IsInfoHash (hash : String) : Prop where
  length : hash.toList.length = 40
  digits : ∀ char ∈ hash.toList, char ∈ Hexadecimal.digits

/-- The canonical spelling of bytes. -/
def hexHash (bytes : List UInt8) : String := String.ofList (Hexadecimal.encode bytes)

/-- Bytes in hexadecimal and in base32, in either case. -/
def spellings (bytes : List UInt8) : List String :=
  [hexHash bytes, String.ofList ((Hexadecimal.encode bytes).map Char.toUpper),
    String.ofList (Base32.encode bytes), String.ofList ((Base32.encode bytes).map Char.toLower)]

theorem length_of_decode? {text : String} {bytes : List UInt8}
    (read : Base32.decode? (text.toList.map Char.toUpper) = some bytes) :
    5 * text.utf8ByteSize = 8 * bytes.length := by
  obtain ⟨ascii, lengths⟩ := Base32.shape_of_decode? read
  have isAscii : ∀ char ∈ text.toList, char.toNat < 0x80 :=
    fun char member => ascii_of_toUpper (ascii _ (List.mem_map_of_mem member))
  rwa [List.length_map, ← utf8ByteSize_of_ascii isAscii] at lengths

theorem isInfoHash_hexHash {bytes : List UInt8} (twenty : bytes.length = 20) :
    IsInfoHash (hexHash bytes) := by
  refine ⟨?_, fun char member => ?_⟩
  · rw [hexHash, String.toList_ofList, Hexadecimal.length_encode, twenty]
  · rw [hexHash, String.toList_ofList] at member
    exact Hexadecimal.mem_digits_of_mem_encode member

/-- Forty hexadecimal digits are read, whatever their case. -/
theorem normalizeHash_of_digits {text : String} (length : text.toList.length = 40)
    (digits : ∀ char ∈ text.toList, Hexadecimal.isDigit char = true) :
    normalizeHash text = .ok (String.ofList (text.toList.map Char.toLower)) := by
  have ascii : ∀ char ∈ text.toList, char.toNat < 0x80 :=
    fun char member => Hexadecimal.ascii_of_isDigit (digits char member)
  have bytes : text.utf8ByteSize = 40 := (utf8ByteSize_of_ascii ascii).trans length
  rw [normalizeHash, if_pos ⟨bytes, List.all_eq_true.mpr digits⟩]

/-- Twenty bytes in base32 are read, whatever the case of the symbols. -/
theorem normalizeHash_of_symbols {text : String} {bytes : List UInt8} (twenty : bytes.length = 20)
    (symbols : text.toList.map Char.toUpper = Base32.encode bytes) :
    normalizeHash text = .ok (hexHash bytes) := by
  have read : Base32.decode? (text.toList.map Char.toUpper) = some bytes := by
    rw [symbols]
    exact Base32.decode?_encode (by omega)
  have lengths := length_of_decode? read
  have size : text.utf8ByteSize = 32 := by omega
  rw [normalizeHash, if_neg (by omega), if_pos size, read, hexHash]

theorem normalizeHash_of_isInfoHash {hash : String} (isHash : IsInfoHash hash) :
    normalizeHash hash = .ok hash := by
  have facts := fun char member => Hexadecimal.of_mem_digits (isHash.digits char member)
  rw [normalizeHash_of_digits isHash.length fun char member => (facts char member).1.1,
    Text.map_of_fixed fun char member => (facts char member).2.1, String.ofList_toList]

/-- All spellings of the same bytes are read as the same hash. -/
theorem normalizeHash_of_mem_spellings {bytes : List UInt8} {text : String}
    (twenty : bytes.length = 20) (member : text ∈ spellings bytes) :
    normalizeHash text = .ok (hexHash bytes) := by
  have digit := fun (char : Char) (isDigit : char ∈ Hexadecimal.encode bytes) =>
    Hexadecimal.of_mem_digits (Hexadecimal.mem_digits_of_mem_encode isDigit)
  have symbol := fun (char : Char) (isSymbol : char ∈ Base32.encode bytes) =>
    Base32.of_mem_alphabet (Base32.mem_alphabet_of_mem_encode isSymbol)
  simp only [spellings, List.mem_cons, List.not_mem_nil, or_false] at member
  rcases member with rfl | rfl | rfl | rfl
  · exact normalizeHash_of_isInfoHash (isInfoHash_hexHash twenty)
  · have lower : ((Hexadecimal.encode bytes).map Char.toUpper).map Char.toLower =
        Hexadecimal.encode bytes := by
      rw [List.map_map]
      exact Text.map_of_fixed fun char isDigit => (digit char isDigit).2.2
    rw [normalizeHash_of_digits]
    · rw [String.toList_ofList, lower, hexHash]
    · rw [String.toList_ofList, List.length_map, Hexadecimal.length_encode, twenty]
    · rw [String.toList_ofList]
      exact List.forall_mem_map.mpr fun char isDigit => (digit char isDigit).1.2
  · refine normalizeHash_of_symbols twenty ?_
    rw [String.toList_ofList]
    exact Text.map_of_fixed fun char isSymbol => (symbol char isSymbol).1
  · refine normalizeHash_of_symbols twenty ?_
    rw [String.toList_ofList, List.map_map]
    exact Text.map_of_fixed fun char isSymbol => (symbol char isSymbol).2

/-- What is accepted as an info hash: forty hexadecimal digits, which become lowercase, or base32 of
twenty bytes, which are then written in hexadecimal. -/
theorem normalizeHash_cases {text hash : String} (accepted : normalizeHash text = .ok hash) :
    (text.toList.length = 40 ∧ (∀ char ∈ text.toList, Hexadecimal.isDigit char = true) ∧
      hash = String.ofList (text.toList.map Char.toLower)) ∨
    ∃ bytes, bytes.length = 20 ∧ Base32.decode? (text.toList.map Char.toUpper) = some bytes ∧
      hash = hexHash bytes := by
  unfold normalizeHash at accepted
  split at accepted
  · rename_i isHex
    obtain ⟨size, digits⟩ := isHex
    rw [List.all_eq_true] at digits
    have ascii : ∀ char ∈ text.toList, char.toNat < 0x80 :=
      fun char member => Hexadecimal.ascii_of_isDigit (digits char member)
    have forty : text.toList.length = 40 := (utf8ByteSize_of_ascii ascii).symm.trans size
    exact .inl ⟨forty, digits, (Except.ok.inj accepted).symm⟩
  · split at accepted
    · rename_i size
      split at accepted
      · rename_i bytes read
        have lengths := length_of_decode? read
        exact .inr ⟨bytes, by omega, read, (Except.ok.inj accepted).symm⟩
      · cases accepted
    · cases accepted

/-- Whatever is accepted as an info hash, the result is canonical. -/
theorem isInfoHash_of_normalizeHash {text hash : String}
    (accepted : normalizeHash text = .ok hash) : IsInfoHash hash := by
  rcases normalizeHash_cases accepted with ⟨forty, digits, rfl⟩ | ⟨bytes, twenty, _, rfl⟩
  · refine ⟨?_, fun char member => ?_⟩
    · rw [String.toList_ofList, List.length_map, forty]
    · rw [String.toList_ofList] at member
      obtain ⟨origin, isOrigin, rfl⟩ := List.mem_map.mp member
      exact Hexadecimal.toLower_mem_digits (digits origin isOrigin)
  · exact isInfoHash_hexHash twenty

end Magnet

end StoreGate
