import StoreGate.PercentEncoding
import StoreGate.Proofs.Json.Numbers
import StoreGate.Proofs.TextParts
/-!
# Percent-encoding character by character

An encoding writes each character by itself: as it is, or as escapes of its bytes.  So a text can be
divided before or after it is encoded, and an encoding that escapes the percent sign is read back as
the bytes of the text.  One that keeps percent signs and hexadecimal digits does not change what a
text means.  Form data, where a plus sign is a blank, are read back as they were, too, if plus signs
are escaped.
-/

namespace StoreGate

namespace PercentEncoding

variable {escaped : EscapeSet}

/-- How an encoding writes one character. -/
def encodeChar (escaped : EscapeSet) (char : Char) : List Char :=
  (String.utf8EncodeChar char).flatMap (encodeByte escaped)

theorem encode_ofList (escaped : EscapeSet) (characters : List Char) :
    encode escaped (String.ofList characters) = characters.flatMap (encodeChar escaped) := by
  rw [encode, Utf8.encode_ofList, List.flatMap_assoc]
  rfl

theorem encode_eq (escaped : EscapeSet) (text : String) :
    encode escaped text = text.toList.flatMap (encodeChar escaped) := by
  rw [← encode_ofList, String.ofList_toList]

/-- A percent sign, or a digit of an escape. -/
def IsEscapeMark (char : Char) : Prop :=
  char = '%' ∨ ∃ value < 16, char = digit value

theorem isEscapeMark_of_mem {byte : UInt8} {char : Char} (member : char ∈ escape byte) :
    IsEscapeMark char := by
  have bound := byte.toNat_lt
  simp only [escape, List.mem_cons, List.not_mem_nil, or_false] at member
  rcases member with rfl | rfl | rfl
  · exact .inl rfl
  · exact .inr ⟨_, by omega, rfl⟩
  · exact .inr ⟨_, Nat.mod_lt _ (by decide), rfl⟩

/-- What holds for the percent sign and the digits holds for everything in an escape. -/
theorem IsEscapeMark.satisfies {char : Char} (mark : IsEscapeMark char) (property : Char → Prop)
    (percent : property '%') (digits : ∀ value : Fin 16, property (digit value)) :
    property char := by
  rcases mark with rfl | ⟨value, small, rfl⟩
  · exact percent
  · exact digits ⟨value, small⟩

theorem toNat_ofNat_of_lt {code : Nat} (isAscii : code < 0x80) : (Char.ofNat code).toNat = code := by
  have valid : code.isValidChar := Or.inl (by omega)
  rw [Char.ofNat, dif_pos valid]
  rfl

theorem ofNat_ascii {char : Char} (isAscii : char.toNat < 0x80) :
    Char.ofNat (UInt8.ofNat char.toNat).toNat = char := by
  have code : (UInt8.ofNat char.toNat).toNat = char.toNat := by
    simp
    omega
  rw [code, Char.ofNat_toNat]

/-- A character is written as it is if the encoding does not escape it. -/
theorem encodeChar_of_ascii {char : Char} (isAscii : char.toNat < 0x80)
    (kept : escaped char = false) : encodeChar escaped char = [char] := by
  have low : ¬ 0x80 ≤ UInt8.ofNat char.toNat := by
    rw [UInt8.le_iff_toNat_le]
    simp
    omega
  rw [encodeChar, Utf8.utf8EncodeChar_of_ascii isAscii, List.flatMap_singleton, encodeByte]
  simp only [ofNat_ascii isAscii, low, kept, decide_false, Bool.or_self, Bool.false_eq_true,
    if_false]

/-- What an encoding writes is the character itself, if it is kept, or part of an escape. -/
theorem mem_encodeChar {char written : Char} (member : written ∈ encodeChar escaped char) :
    (written = char ∧ char.toNat < 0x80 ∧ escaped char = false) ∨ IsEscapeMark written := by
  obtain ⟨byte, isByte, member⟩ := List.mem_flatMap.mp member
  by_cases isAscii : char.toNat < 0x80
  · rw [Utf8.utf8EncodeChar_of_ascii isAscii, List.mem_singleton] at isByte
    rw [encodeByte] at member
    split at member
    · exact .inr (isEscapeMark_of_mem member)
    · rename_i kept
      rw [Bool.or_eq_true, not_or, Bool.not_eq_true (escaped _)] at kept
      rw [isByte, ofNat_ascii isAscii] at kept member
      exact .inl ⟨List.mem_singleton.mp member, isAscii, kept.2⟩
  · have high := Utf8.high_of_mem (Nat.le_of_not_lt isAscii) isByte
    rw [encodeByte, decide_eq_true high, Bool.true_or, if_pos rfl] at member
    exact .inr (isEscapeMark_of_mem member)

/-- Whatever is kept, and every part of an escape, is ASCII. -/
theorem ascii_of_mem {char written : Char} (member : written ∈ encodeChar escaped char) :
    written.toNat < 0x80 := by
  rcases mem_encodeChar member with ⟨rfl, isAscii, _⟩ | mark
  · exact isAscii
  · exact mark.satisfies (fun written => written.toNat < 0x80) (by decide) (by decide)

theorem not_mem_encodeChar {char mark : Char} (differ : char ≠ mark)
    (foreign : ¬ IsEscapeMark mark) : mark ∉ encodeChar escaped char := by
  intro member
  rcases mem_encodeChar member with ⟨same, _, _⟩ | isMark
  · exact differ same.symm
  · exact foreign isMark

/-- Characters that no encoding has to touch are written as they are. -/
theorem encode_of_kept {characters : List Char}
    (kept : ∀ char ∈ characters, char.toNat < 0x80 ∧ escaped char = false) :
    encode escaped (String.ofList characters) = characters := by
  rw [encode_ofList]
  induction characters with
  | nil => rfl
  | cons char rest ih =>
      obtain ⟨isAscii, here⟩ := kept char List.mem_cons_self
      rw [List.flatMap_cons, encodeChar_of_ascii isAscii here,
        ih fun other member => kept other (List.mem_cons_of_mem _ member)]
      rfl

section Decoding

theorem decodeBytes_cons_of_ne {byte : UInt8} (plain : byte ≠ 0x25) (rest : List UInt8) :
    decodeBytes (byte :: rest) = byte :: decodeBytes rest := by
  match rest with
  | [] => rfl
  | [_] => rfl
  | _ :: _ :: _ => rw [decodeBytes, if_neg plain]

theorem value?_digit : ∀ value : Fin 16,
    Hexadecimal.value? (Char.ofNat (Json.ascii (digit value)).toNat) = some value.val := by
  decide

theorem decodeBytes_escape (byte : UInt8) (rest : List UInt8) :
    decodeBytes ((escape byte).map Json.ascii ++ rest) = byte :: decodeBytes rest := by
  have bound := byte.toNat_lt
  have high := value?_digit ⟨byte.toNat / 16, by omega⟩
  have low := value?_digit ⟨byte.toNat % 16, Nat.mod_lt _ (by decide)⟩
  have meant : escaped? (Json.ascii (digit (byte.toNat / 16)))
      (Json.ascii (digit (byte.toNat % 16))) = some byte := by
    rw [escaped?, high, low]
    change some (UInt8.ofNat (16 * (byte.toNat / 16) + byte.toNat % 16)) = _
    rw [Nat.div_add_mod, UInt8.ofNat_toNat]
  change decodeBytes (0x25 :: _ :: _ :: rest) = _
  rw [decodeBytes, if_pos rfl, meant]

theorem ascii_ofNat {byte : UInt8} (low : byte.toNat < 0x80) :
    Json.ascii (Char.ofNat byte.toNat) = byte := by
  rw [Json.ascii, toNat_ofNat_of_lt low, UInt8.ofNat_toNat]

theorem decodeBytes_encodeByte {byte : UInt8} (apart : byte = 0x25 → escaped '%' = true)
    (rest : List UInt8) :
    decodeBytes ((encodeByte escaped byte).map Json.ascii ++ rest) = byte :: decodeBytes rest := by
  rw [encodeByte]
  split
  · exact decodeBytes_escape byte rest
  · rename_i kept
    rw [Bool.or_eq_true, not_or, decide_eq_true_eq, UInt8.le_iff_toNat_le] at kept
    have plain : byte ≠ 0x25 := by
      rintro rfl
      exact kept.2 (apart rfl)
    rw [List.map_singleton, ascii_ofNat (Nat.lt_of_not_le kept.1), List.singleton_append,
      decodeBytes_cons_of_ne plain]

/-- The bytes that an encoding writes for some bytes. -/
def writtenBytes (escaped : EscapeSet) (bytes : List UInt8) : List UInt8 :=
  (bytes.flatMap (encodeByte escaped)).map Json.ascii

theorem writtenBytes_cons (byte : UInt8) (bytes : List UInt8) :
    writtenBytes escaped (byte :: bytes) =
      (encodeByte escaped byte).map Json.ascii ++ writtenBytes escaped bytes := by
  rw [writtenBytes, List.flatMap_cons, List.map_append, writtenBytes]

theorem decodeBytes_encode (percent : escaped '%' = true) (bytes : List UInt8) :
    decodeBytes (writtenBytes escaped bytes) = bytes := by
  induction bytes with
  | nil => rfl
  | cons byte bytes ih =>
      rw [writtenBytes_cons, decodeBytes_encodeByte fun _ => percent, ih]

theorem ascii_of_mem_encode {text : String} {char : Char} (member : char ∈ encode escaped text) :
    char.toNat < 0x80 := by
  rw [encode_eq] at member
  obtain ⟨origin, _, written⟩ := List.mem_flatMap.mp member
  exact ascii_of_mem written

theorem encode_encode (escaped : EscapeSet) (text : String) :
    Utf8.encode (String.ofList (encode escaped text)) =
      writtenBytes escaped (Utf8.encode text) := by
  rw [Utf8.encode_ofList]
  exact Json.written_of_ascii fun char member => ascii_of_mem_encode member

/-- An encoding that escapes the percent sign is read back as the bytes of the text. -/
theorem decode_encode (percent : escaped '%' = true) (text : String) :
    decode (String.ofList (encode escaped text)) = Utf8.encode text := by
  rw [decode, encode_encode, decodeBytes_encode percent]

/-- An ASCII character occurs in a text if its byte does. -/
theorem mem_of_mem_encode {mark : Char} (isAscii : mark.toNat < 0x80) {text : String}
    (member : Json.ascii mark ∈ Utf8.encode text) : mark ∈ text.toList := by
  rw [← Utf8.encode_toList] at member
  obtain ⟨char, isChar, isByte⟩ := List.mem_flatMap.mp member
  by_cases charAscii : char.toNat < 0x80
  · rw [Utf8.utf8EncodeChar_of_ascii charAscii, List.mem_singleton] at isByte
    have same := ofNat_ascii isAscii
    rw [show UInt8.ofNat mark.toNat = UInt8.ofNat char.toNat from isByte,
      ofNat_ascii charAscii] at same
    exact same ▸ isChar
  · have high := Utf8.high_of_mem (Nat.le_of_not_lt charAscii) isByte
    rw [UInt8.le_iff_toNat_le] at high
    simp [Json.ascii] at high
    omega

/-- A text without a percent sign means itself. -/
theorem decode_of_plain {text : String} (plain : '%' ∉ text.toList) :
    decode text = Utf8.encode text := by
  have noPercent : ∀ byte ∈ Utf8.encode text, byte ≠ 0x25 := by
    rintro _ isByte rfl
    have isPercent : Json.ascii '%' ∈ Utf8.encode text := isByte
    exact plain (mem_of_mem_encode (by decide) isPercent)
  rw [decode]
  generalize Utf8.encode text = bytes at noPercent
  induction bytes with
  | nil => rfl
  | cons byte bytes ih =>
      rw [decodeBytes_cons_of_ne (noPercent byte List.mem_cons_self),
        ih fun other member => noPercent other (List.mem_cons_of_mem _ member)]

theorem decodeBytes_ne_nil (byte : UInt8) (rest : List UInt8) :
    decodeBytes (byte :: rest) ≠ [] := by
  match rest with
  | [] => nofun
  | [_] => nofun
  | _ :: _ :: _ =>
      rw [decodeBytes]
      split
      · split <;> nofun
      · nofun

/-- Only the empty text means no bytes. -/
theorem eq_empty_of_decode {text : String} (noBytes : decode text = []) : text = "" := by
  rw [decode] at noBytes
  have nothing : Utf8.encode text = Utf8.encode "" := by
    cases bytes : Utf8.encode text with
    | nil => rfl
    | cons byte rest => exact absurd (bytes ▸ noBytes) (decodeBytes_ne_nil byte rest)
  exact Utf8.encode_injective nothing

/-- No reading of escapes gives more bytes than there are. -/
theorem length_decodeBytes_le (bytes : List UInt8) : (decodeBytes bytes).length ≤ bytes.length := by
  fun_induction decodeBytes bytes with
  | case1 high low rest value meant ih =>
      simp only [List.length_cons]
      omega
  | case2 high low rest meant ih =>
      simp only [List.length_cons] at ih ⊢
      omega
  | case3 byte high low rest plain ih =>
      simp only [List.length_cons] at ih ⊢
      omega
  | case4 bytes short => exact Nat.le_refl _

end Decoding

section KeptEscapes

/-- Whether a byte is a hexadecimal digit. -/
def IsDigit (byte : UInt8) : Prop :=
  Hexadecimal.isDigit (Char.ofNat byte.toNat) = true

instance : DecidablePred IsDigit := fun byte =>
  inferInstanceAs (Decidable (Hexadecimal.isDigit (Char.ofNat byte.toNat) = true))

theorem isSome_escaped?_iff {high low : UInt8} :
    (escaped? high low).isSome ↔ IsDigit high ∧ IsDigit low := by
  rw [escaped?, IsDigit, IsDigit, Hexadecimal.isDigit, Hexadecimal.isDigit]
  cases Hexadecimal.value? (Char.ofNat high.toNat) with
  | none => simp
  | some value => cases Hexadecimal.value? (Char.ofNat low.toNat) <;> simp

/-- Whether an encoding leaves the escapes of a text as they are. -/
structure KeepsEscapes (escaped : EscapeSet) : Prop where
  percent : encodeByte escaped 0x25 = ['%']
  digit : ∀ byte, IsDigit byte → (encodeByte escaped byte).map Json.ascii = [byte]

theorem keepsEscapes_path : KeepsEscapes path where
  percent := by decide
  digit byte isDigit := by
    have checked : ∀ value : Fin 256, IsDigit (UInt8.ofNat value) →
        (encodeByte path (UInt8.ofNat value)).map Json.ascii = [UInt8.ofNat value] := by
      decide +kernel
    simpa using checked ⟨byte.toNat, byte.toNat_lt⟩ (by simpa using isDigit)

/-- Whether bytes begin with the digits of an escape. -/
def BeginsWithDigits (bytes : List UInt8) : Prop :=
  ∃ high low rest, bytes = high :: low :: rest ∧ IsDigit high ∧ IsDigit low

theorem decodeBytes_percent {rest : List UInt8} (noDigits : ¬ BeginsWithDigits rest) :
    decodeBytes (0x25 :: rest) = 0x25 :: decodeBytes rest := by
  match rest with
  | [] => rfl
  | [_] => rfl
  | high :: low :: rest =>
      cases meant : escaped? high low with
      | none => rw [decodeBytes, if_pos rfl, meant]
      | some value =>
          have digits := isSome_escaped?_iff.mp (meant ▸ rfl : (escaped? high low).isSome)
          exact absurd ⟨high, low, rest, rfl, digits⟩ noDigits

/-- A digit in front of what an encoding writes was there before. -/
theorem of_writtenBytes_eq_cons {bytes rest : List UInt8} {first : UInt8}
    (written : writtenBytes escaped bytes = first :: rest) (isDigit : IsDigit first) :
    ∃ others, bytes = first :: others ∧ rest = writtenBytes escaped others := by
  cases bytes with
  | nil => cases written
  | cons byte others =>
      rw [writtenBytes_cons, encodeByte] at written
      split at written
      · -- An escape begins with a percent sign.
        cases written
        exact absurd isDigit (by decide)
      · rename_i kept
        rw [Bool.or_eq_true, not_or, decide_eq_true_eq, UInt8.le_iff_toNat_le] at kept
        rw [List.map_singleton, ascii_ofNat (Nat.lt_of_not_le kept.1)] at written
        cases written
        exact ⟨others, rfl, rfl⟩

theorem beginsWithDigits_of_writtenBytes {bytes : List UInt8}
    (begins : BeginsWithDigits (writtenBytes escaped bytes)) : BeginsWithDigits bytes := by
  obtain ⟨high, low, rest, written, isHigh, isLow⟩ := begins
  obtain ⟨others, rfl, writtenOthers⟩ := of_writtenBytes_eq_cons written isHigh
  obtain ⟨rest, rfl, _⟩ := of_writtenBytes_eq_cons writtenOthers.symm isLow
  exact ⟨high, low, rest, rfl, isHigh, isLow⟩

/-- What bytes mean does not change when other bytes than those of escapes are escaped. -/
theorem decodeBytes_writtenBytes (keeps : KeepsEscapes escaped) (bytes : List UInt8) :
    decodeBytes (writtenBytes escaped bytes) = decodeBytes bytes := by
  -- An escape is read three bytes at a time, so the induction is on the length.
  induction isLength : bytes.length using Nat.strongRecOn generalizing bytes with
  | ind length ih =>
    cases bytes with
    | nil => rfl
    | cons byte rest =>
        have shorter : rest.length < length := isLength ▸ Nat.lt_succ_self _
        rw [writtenBytes_cons]
        by_cases isPercent : byte = 0x25
        · subst isPercent
          rw [keeps.percent]
          change decodeBytes (0x25 :: writtenBytes escaped rest) = _
          by_cases digits : BeginsWithDigits rest
          · obtain ⟨high, low, rest, rfl, isHigh, isLow⟩ := digits
            simp only [List.length_cons] at shorter
            have meaning := ih rest.length (by omega) rest rfl
            obtain ⟨value, meant⟩ := Option.isSome_iff_exists.mp
              (isSome_escaped?_iff.mpr ⟨isHigh, isLow⟩)
            rw [writtenBytes_cons, keeps.digit high isHigh, writtenBytes_cons,
              keeps.digit low isLow]
            change decodeBytes (0x25 :: high :: low :: writtenBytes escaped rest) = _
            rw [decodeBytes, if_pos rfl, meant, decodeBytes, if_pos rfl, meant]
            exact congrArg (value :: ·) meaning
          · have stillNone : ¬ BeginsWithDigits (writtenBytes escaped rest) :=
              fun begins => digits (beginsWithDigits_of_writtenBytes begins)
            rw [decodeBytes_percent stillNone, decodeBytes_percent digits, ih _ shorter rest rfl]
        · rw [decodeBytes_encodeByte (fun same => absurd same isPercent),
            decodeBytes_cons_of_ne isPercent, ih _ shorter rest rfl]

/-- A text means the same when its escapes are kept and other characters are escaped. -/
theorem decode_encode_of_keepsEscapes (keeps : KeepsEscapes escaped) (text : String) :
    decode (String.ofList (encode escaped text)) = decode text := by
  rw [decode, encode_encode, decodeBytes_writtenBytes keeps, decode]

end KeptEscapes

section Forms

theorem spaced_of_not_mem {text : List Char} (noPlus : '+' ∉ text) :
    text.map (fun char => if char = '+' then ' ' else char) = text := by
  refine Text.map_of_fixed fun char member => if_neg ?_
  rintro rfl
  exact noPlus member

/-- Form data without blanks and escapes mean themselves. -/
theorem decodeForm_of_plain {text : List Char} (noPlus : '+' ∉ text) (noPercent : '%' ∉ text) :
    decodeForm text = String.ofList text := by
  have plain : '%' ∉ (String.ofList text).toList := by rwa [String.toList_ofList]
  unfold decodeForm
  dsimp only
  rw [spaced_of_not_mem noPlus, decode_of_plain plain, Utf8.decodeLossy_encode]

/-- What is written as escapes means the same to readers of form data. -/
theorem decodeForm_encode {escaped : EscapeSet} (percent : escaped '%' = true)
    (plus : escaped '+' = true) (text : String) : decodeForm (encode escaped text) = text := by
  have noPlus : '+' ∉ encode escaped text := by
    rw [encode_eq]
    intro member
    obtain ⟨char, _, written⟩ := List.mem_flatMap.mp member
    rcases mem_encodeChar written with ⟨rfl, _, kept⟩ | mark
    · exact absurd plus (by simp [kept])
    · exact mark.satisfies (· ≠ '+') (by decide) (by decide) rfl
  unfold decodeForm
  dsimp only
  rw [spaced_of_not_mem noPlus, decode_encode percent, Utf8.decodeLossy_encode]

theorem alphanumeric_of_mem_encode {text : String} {char : Char}
    (member : char ∈ encode nonAlphanumeric text) : char.isAlphanum = true ∨ char = '%' := by
  rw [encode_eq] at member
  obtain ⟨origin, _, written⟩ := List.mem_flatMap.mp member
  rcases mem_encodeChar written with ⟨rfl, _, kept⟩ | mark
  · exact .inl (by simpa [nonAlphanumeric] using kept)
  · exact mark.satisfies (fun char => char.isAlphanum = true ∨ char = '%') (by decide) (by decide)

end Forms

end PercentEncoding

end StoreGate
