import Mathlib.Tactic.SplitIfs
import StoreGate.Json.Parser
import StoreGate.Json.Printer
/-!
# Strings of JSON documents are read as they were written

A character is written as itself or as an escape, and either is read as the bytes of the character.
Bytes beyond ASCII never look like a quote, a backslash or a control character, so the reader, which
works on bytes, agrees with the writer, which works on characters.
-/

namespace StoreGate

namespace Utf8

theorem encode_ofList (characters : List Char) :
    encode (String.ofList characters) = characters.flatMap String.utf8EncodeChar := by
  simp [encode, List.utf8Encode]

theorem encode_toList (text : String) :
    text.toList.flatMap String.utf8EncodeChar = encode text := by
  rw [← encode_ofList, String.ofList_toList]

theorem utf8EncodeChar_of_ascii {char : Char} (isAscii : char.toNat < 0x80) :
    String.utf8EncodeChar char = [UInt8.ofNat char.toNat] := by
  have bound : char.val.toNat ≤ 0x7f := Nat.le_of_lt_succ isAscii
  simp only [String.utf8EncodeChar, bound, if_true]
  rfl

/-- All bytes of a character beyond ASCII have their highest bit set. -/
theorem high_of_mem {char : Char} (notAscii : 0x80 ≤ char.toNat) {byte : UInt8}
    (member : byte ∈ String.utf8EncodeChar char) : 0x80 ≤ byte := by
  have bound : ¬ char.val.toNat ≤ 0x7f := by
    change 0x80 ≤ char.val.toNat at notAscii
    omega
  simp only [String.utf8EncodeChar, bound, if_false] at member
  rw [UInt8.le_iff_toNat_le]
  split at member
  · simp only [List.mem_cons, List.not_mem_nil, or_false] at member
    rcases member with rfl | rfl <;> simp <;> omega
  · split at member
    · simp only [List.mem_cons, List.not_mem_nil, or_false] at member
      rcases member with rfl | rfl | rfl <;> simp <;> omega
    · simp only [List.mem_cons, List.not_mem_nil, or_false] at member
      rcases member with rfl | rfl | rfl | rfl <;> simp <;> omega

end Utf8

namespace Json

/-- The bytes of written characters. -/
def written (characters : List Char) : List UInt8 :=
  characters.flatMap String.utf8EncodeChar

theorem written_cons (char : Char) (characters : List Char) :
    written (char :: characters) = String.utf8EncodeChar char ++ written characters :=
  rfl

theorem written_append (first second : List Char) :
    written (first ++ second) = written first ++ written second := by
  simp [written]

theorem written_cons_of_ascii {first : Char} (isAscii : first.toNat < 0x80) (others : List Char) :
    written (first :: others) = ascii first :: written others := by
  rw [written_cons, Utf8.utf8EncodeChar_of_ascii isAscii]
  rfl

/-- A byte that stands for itself inside a string. -/
structure IsPlain (byte : UInt8) : Prop where
  notQuote : byte ≠ ascii '"'
  notBackslash : byte ≠ ascii '\\'
  notControl : ¬ byte < 0x20

theorem prepend_prepend (first second : List UInt8) (read : List UInt8 × List UInt8) :
    prepend first (prepend second read) = prepend (first ++ second) read := by
  simp [prepend]

theorem content_cons_plain {byte : UInt8} (plain : IsPlain byte) (rest : List UInt8) :
    content none (byte :: rest) = (content none rest).map (prepend [byte]) := by
  rw [content.eq_def]
  simp [plain.notQuote, plain.notBackslash, plain.notControl]

/-- An escape of one letter is read as its byte. -/
theorem content_letter (letter : UInt8) {value : UInt8} (short : letter ≠ ascii 'u')
    (known : escaped? letter = some value) (rest : List UInt8) :
    content none (ascii '\\' :: letter :: rest) = (content none rest).map (prepend [value]) := by
  rw [content.eq_def]
  have notQuote : ascii '\\' ≠ ascii '"' := by decide
  simp [notQuote, short, known]

/-- An escape of four digits that is no half of a pair is read as its code point. -/
theorem content_unit {a b c d : UInt8} {code : Nat} (known : unit? a b c d = some code)
    (low : code < 0xd800) (rest : List UInt8) :
    content none (ascii '\\' :: ascii 'u' :: a :: b :: c :: d :: rest) =
      (content none rest).map (prepend (codePointBytes code)) := by
  rw [content.eq_def]
  have notQuote : ascii '\\' ≠ ascii '"' := by decide
  have notHigh : isHighSurrogate code = false := by
    simp [isHighSurrogate]
    omega
  simp [notQuote, known, notHigh]

theorem content_plain {bytes : List UInt8} (plain : ∀ byte ∈ bytes, IsPlain byte)
    (rest : List UInt8) :
    content none (bytes ++ rest) = (content none rest).map (prepend bytes) := by
  induction bytes with
  | nil =>
      have kept : prepend [] = id := rfl
      simp [kept]
  | cons byte bytes ih =>
      have here := plain byte List.mem_cons_self
      have others := ih fun other member => plain other (List.mem_cons_of_mem _ member)
      rw [List.cons_append, content_cons_plain here, others]
      simp [prepend_prepend, Function.comp_def]

/-- The digits of a control character. -/
theorem unit?_of_control : ∀ code : Fin 0x20,
    unit? (ascii '0') (ascii '0') (ascii (Hexadecimal.digit (code / 16)))
      (ascii (Hexadecimal.digit (code % 16))) = some code.val := by
  decide

theorem ascii_digit : ∀ value : Fin 16,
    String.utf8EncodeChar (Hexadecimal.digit value) = [ascii (Hexadecimal.digit value)] := by
  decide

theorem isPlain_of_mem {char : Char} (notControl : ¬ char.toNat < 0x20) (notQuote : char ≠ '"')
    (notBackslash : char ≠ '\\') {byte : UInt8} (member : byte ∈ String.utf8EncodeChar char) :
    IsPlain byte := by
  by_cases isAscii : char.toNat < 0x80
  · rw [Utf8.utf8EncodeChar_of_ascii isAscii, List.mem_singleton] at member
    have code : byte.toNat = char.toNat := by
      rw [member]
      simp
      omega
    have differs : ∀ other : Char, other.toNat < 0x80 → char ≠ other → byte ≠ ascii other := by
      intro other otherAscii differ same
      apply differ
      apply Char.toNat_inj.mp
      rw [← code, same]
      simp [ascii]
      omega
    refine ⟨differs '"' (by decide) notQuote, differs '\\' (by decide) notBackslash, ?_⟩
    rw [UInt8.lt_iff_toNat_lt, code]
    exact notControl
  · have high := Utf8.high_of_mem (Nat.le_of_not_lt isAscii) member
    refine ⟨?_, ?_, ?_⟩
    · rintro rfl
      exact absurd high (by decide)
    · rintro rfl
      exact absurd high (by decide)
    · rw [UInt8.not_lt]
      exact UInt8.le_trans (by decide) high

/-- The reader gives back the bytes of a character, however the writer has put it down. -/
theorem content_escape (char : Char) (rest : List UInt8) :
    content none (written (escape char) ++ rest) =
      (content none rest).map (prepend (String.utf8EncodeChar char)) := by
  unfold escape
  split_ifs with quote backslash newLine carriageReturn tab backspace formFeed control
  · subst quote
    exact content_letter (ascii '"') (by decide) rfl rest
  · subst backslash
    exact content_letter (ascii '\\') (by decide) rfl rest
  · subst newLine
    exact content_letter (ascii 'n') (by decide) rfl rest
  · subst carriageReturn
    exact content_letter (ascii 'r') (by decide) rfl rest
  · subst tab
    exact content_letter (ascii 't') (by decide) rfl rest
  · subst backspace
    exact content_letter (ascii 'b') (by decide) rfl rest
  · subst formFeed
    exact content_letter (ascii 'f') (by decide) rfl rest
  · have digits := unit?_of_control ⟨char.toNat, control⟩
    have read := content_unit digits (by simp; omega) rest
    have oneByte : codePointBytes char.toNat = String.utf8EncodeChar char := by
      have isAscii : char.toNat < 0x80 := by omega
      rw [Utf8.utf8EncodeChar_of_ascii isAscii]
      simp [codePointBytes, isAscii]
    have high := ascii_digit ⟨char.toNat / 16, by omega⟩
    have low := ascii_digit ⟨char.toNat % 16, by omega⟩
    rw [← oneByte, ← read]
    simp only [written, List.flatMap_cons, List.flatMap_nil, List.append_nil, high, low]
    rfl
  · simp only [written, List.flatMap_cons, List.flatMap_nil, List.append_nil]
    exact content_plain (fun byte => isPlain_of_mem control quote backslash) rest

/-- A written string is read up to the quote that ends it. -/
theorem content_quoted (characters : List Char) (rest : List UInt8) :
    content none (written (characters.flatMap escape) ++ ascii '"' :: rest) =
      some (written characters, rest) := by
  induction characters with
  | nil =>
      rw [List.flatMap_nil, written, List.flatMap_nil, List.nil_append, content.eq_def]
      simp
  | cons char characters ih =>
      rw [List.flatMap_cons, written_append, List.append_assoc, content_escape, ih]
      simp [prepend, written_cons]

end Json

end StoreGate
