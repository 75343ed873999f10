import StoreGate.Proofs.Json.Strings
/-!
# Whole numbers of JSON documents are read as they were written

The digits of a number are read up to the first byte that cannot go on with it.  No number but zero
begins with a zero, and none is minus zero, so each whole number of 64 bits is read as itself.
-/

namespace StoreGate.Json

/-- Where a number ends, whatever it is: nothing that follows could belong to it. -/
def EndsNumber (rest : List UInt8) : Prop :=
  ∀ byte ∈ rest.head?,
    isDigit byte = false ∧ byte ≠ ascii '.' ∧ byte ≠ ascii 'e' ∧ byte ≠ ascii 'E'

theorem written_of_ascii {characters : List Char}
    (areAscii : ∀ char ∈ characters, char.toNat < 0x80) :
    written characters = characters.map ascii := by
  induction characters with
  | nil => rfl
  | cons char characters ih =>
      have others := ih fun other member => areAscii other (List.mem_cons_of_mem _ member)
      rw [written_cons_of_ascii (areAscii char List.mem_cons_self), others, List.map_cons]

theorem toNat_of_isDigit {char : Char} (digit : char.isDigit = true) :
    48 ≤ char.toNat ∧ char.toNat ≤ 57 := by
  simp only [Char.isDigit, Bool.and_eq_true, decide_eq_true_eq] at digit
  exact ⟨UInt32.le_iff_toNat_le.mp digit.1, UInt32.le_iff_toNat_le.mp digit.2⟩

section Digits

variable (number : Nat)

theorem digit_bounds {char : Char} (member : char ∈ Nat.toDigits 10 number) :
    48 ≤ char.toNat ∧ char.toNat ≤ 57 :=
  toNat_of_isDigit (Nat.isDigit_of_mem_toDigits (by decide) (by decide) member)

theorem written_toDigits :
    written (Nat.toDigits 10 number) = (Nat.toDigits 10 number).map ascii := by
  apply written_of_ascii
  intro char member
  have bounds := digit_bounds number member
  omega

theorem isDigit_of_mem_written {byte : UInt8} (member : byte ∈ written (Nat.toDigits 10 number)) :
    isDigit byte = true := by
  rw [written_toDigits, List.mem_map] at member
  obtain ⟨char, charMember, rfl⟩ := member
  have bounds := digit_bounds number charMember
  simp [isDigit, ascii, UInt8.le_iff_toNat_le]
  omega

theorem valueOfDigits_written : valueOfDigits (written (Nat.toDigits 10 number)) = number := by
  have characters : (Nat.toDigits 10 number).map (fun char => Char.ofNat (ascii char).toNat) =
      Nat.toDigits 10 number := by
    refine (List.map_congr_left ?_).trans (List.map_id _)
    intro char member
    have bounds := digit_bounds number member
    have code : (ascii char).toNat = char.toNat := by
      simp [ascii]
      omega
    rw [code, Char.ofNat_toNat]
    rfl
  rw [written_toDigits, valueOfDigits, List.map_map, Function.comp_def, characters]
  exact Nat.ofDigitChars_ten_toDigits

/-- A number that is not zero begins with another digit. -/
theorem head?_toDigits {number : Nat} (positive : 0 < number) :
    (Nat.toDigits 10 number).head? ≠ some '0' := by
  induction number using Nat.strongRecOn with
  | ind number ih =>
      by_cases short : number < 10
      · rw [Nat.toDigits_of_lt_base short]
        simp
        omega
      · rw [Nat.toDigits_of_base_le (by decide) (Nat.le_of_not_lt short)]
        have shorter := ih (number / 10) (by omega) (by omega)
        cases digits : Nat.toDigits 10 (number / 10) with
        | nil => exact absurd digits Nat.toDigits_ne_nil
        | cons first others =>
            rw [digits] at shorter
            simpa using shorter

theorem written_toDigits_ne_nil : written (Nat.toDigits 10 number) ≠ [] := by
  rw [written_toDigits, ne_eq, List.map_eq_nil_iff]
  exact Nat.toDigits_ne_nil

/-- A leading zero stands alone. -/
theorem length_of_leadingZero
    (leading : (written (Nat.toDigits 10 number)).head? = some (ascii '0')) :
    (written (Nat.toDigits 10 number)).length = 1 := by
  rcases Nat.eq_zero_or_pos number with rfl | positive
  · rfl
  · rw [written_toDigits, List.head?_map, Option.map_eq_some_iff] at leading
    obtain ⟨first, isFirst, same⟩ := leading
    have bounds := digit_bounds number (List.mem_of_head? isFirst)
    have isZero : first = '0' := by
      apply Char.toNat_inj.mp
      have codes := congrArg UInt8.toNat same
      simp [ascii] at codes
      change first.toNat = 48
      omega
    rw [isZero] at isFirst
    exact absurd isFirst (head?_toDigits positive)

end Digits

theorem digits_append {bytes rest : List UInt8} (areDigits : ∀ byte ∈ bytes, isDigit byte = true)
    (ends : EndsNumber rest) : digits (bytes ++ rest) = (bytes, rest) := by
  induction bytes with
  | nil =>
      cases rest with
      | nil => rfl
      | cons byte rest =>
          have stop := (ends byte rfl).1
          simp [digits, stop]
  | cons byte bytes ih =>
      have here := areDigits byte List.mem_cons_self
      have others := ih fun other member => areDigits other (List.mem_cons_of_mem _ member)
      simp only [digits, Prod.mk.injEq] at others
      simp [digits, here, others.1, others.2]

theorem fraction_of_ends {rest : List UInt8} (ends : EndsNumber rest) :
    fraction rest = some ([], rest) := by
  cases rest with
  | nil => rfl
  | cons byte rest => simp [fraction, (ends byte rfl).2.1]

theorem exponent_of_ends {rest : List UInt8} (ends : EndsNumber rest) :
    exponent rest = some (none, rest) := by
  cases rest with
  | nil => rfl
  | cons byte rest => simp [exponent, (ends byte rfl).2.2]

theorem number_toDigits (negative : Bool) (magnitude : Nat) {rest : List UInt8}
    (ends : EndsNumber rest) :
    number negative (written (Nat.toDigits 10 magnitude) ++ rest) =
      some (ofParts negative (written (Nat.toDigits 10 magnitude)) [] none, rest) := by
  have alone := length_of_leadingZero magnitude
  rw [number, digits_append (fun byte => isDigit_of_mem_written magnitude) ends]
  have present := written_toDigits_ne_nil magnitude
  simp only [List.isEmpty_iff, present, false_or, fraction_of_ends ends]
  rw [if_neg fun leading => leading.2 (alone leading.1)]
  simp [exponent_of_ends ends]

/-- The parts of a written number are put together to that number. -/
theorem ofParts_written (negative : Bool) (magnitude : Nat)
    (fits : fitsInteger (if negative then -magnitude else magnitude) = true)
    (signed : negative = true → magnitude ≠ 0) :
    ofParts negative (written (Nat.toDigits 10 magnitude)) [] none =
      .integer (if negative then -magnitude else magnitude) := by
  have read := valueOfDigits_written magnitude
  cases negative <;> simp_all [ofParts]

end StoreGate.Json
