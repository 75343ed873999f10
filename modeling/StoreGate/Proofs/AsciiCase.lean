import StoreGate.Text.Blank
/-!
# ASCII characters and their case

What holds of all ASCII characters is checked one by one.  Two texts that differ at most in the case
of ASCII letters are trimmed alike.
-/

namespace StoreGate

theorem ascii_of_le {char last : Char} (small : char ≤ last) (isAscii : last.toNat < 128) :
    char.toNat < 128 :=
  Nat.lt_of_le_of_lt (UInt32.le_iff_toNat_le.mp small) isAscii

theorem isUpper_iff {char : Char} : char.isUpper = true ↔ 'A' ≤ char ∧ char ≤ 'Z' :=
  decide_eq_true_iff

theorem isLower_iff {char : Char} : char.isLower = true ↔ 'a' ≤ char ∧ char ≤ 'z' :=
  Bool.and_eq_true_iff.trans (and_congr decide_eq_true_iff decide_eq_true_iff)

theorem isAlpha_iff {char : Char} :
    char.isAlpha = true ↔ char.isUpper = true ∨ char.isLower = true :=
  Bool.or_eq_true_iff

theorem ascii_of_toUpper {char : Char} (isAscii : char.toUpper.toNat < 128) : char.toNat < 128 := by
  unfold Char.toUpper at isAscii
  split at isAscii
  · exact ascii_of_le (‹_ ∧ _›).2 (show 'z'.toNat < 128 by decide)
  · exact isAscii

theorem ascii_of_toLower {char : Char} (isAscii : char.toLower.toNat < 128) : char.toNat < 128 := by
  unfold Char.toLower at isAscii
  split at isAscii
  · exact ascii_of_le (‹_ ∧ _›).2 (show 'Z'.toNat < 128 by decide)
  · exact isAscii

/-- What holds of the 128 ASCII characters, one by one. -/
theorem of_ascii (holds : Char → Prop) (all : ∀ code : Fin 128, holds (Char.ofNat code))
    {char : Char} (ascii : char.toNat < 128) : holds char := by
  have here := all ⟨char.toNat, ascii⟩
  rwa [Char.ofNat_toNat] at here

theorem toLower_of_not_ascii {char : Char} (foreign : ¬ char.toNat < 128) :
    char.toLower = char := by
  unfold Char.toLower
  split
  · rename_i capital
    exact absurd (ascii_of_le capital.2 (show 'Z'.toNat < 128 by decide)) foreign
  · rfl

/-- A character that changes is a capital letter, and becomes the letter in the other stretch. -/
theorem toLower_cases (char : Char) : char.toLower = char ∨
    0x41 ≤ char.toNat ∧ char.toNat ≤ 0x5a ∧ char.toLower.toNat = char.toNat + 0x20 := by
  by_cases isAscii : char.toNat < 128
  · exact of_ascii (fun char => char.toLower = char ∨ 0x41 ≤ char.toNat ∧ char.toNat ≤ 0x5a ∧
      char.toLower.toNat = char.toNat + 0x20) (by decide) isAscii
  · left
    exact toLower_of_not_ascii isAscii

/-- What does not depend on the case of the ASCII characters, one by one. -/
theorem eq_of_toLower_ascii {α : Type} (property : Char → α)
    (alike : ∀ code : Fin 128, property (Char.ofNat code).toLower = property (Char.ofNat code))
    (char : Char) : property char.toLower = property char := by
  by_cases isAscii : char.toNat < 128
  · exact of_ascii (fun char => property char.toLower = property char) alike isAscii
  · rw [toLower_of_not_ascii isAscii]

namespace Text

/-- Whether two texts differ at most in the case of ASCII letters. -/
def SameButForCase (first second : String) : Prop :=
  first.toList.map Char.toLower = second.toList.map Char.toLower

instance (first second : String) : Decidable (SameButForCase first second) :=
  inferInstanceAs (Decidable (_ = _))

theorem isBlank_toLower (char : Char) : isBlank char.toLower = isBlank char :=
  eq_of_toLower_ascii isBlank (by decide) char

theorem dropBlanks_map_toLower (text : List Char) :
    (text.map Char.toLower).dropWhile isBlank = (text.dropWhile isBlank).map Char.toLower := by
  induction text with
  | nil => rfl
  | cons char text ih =>
      rw [List.map_cons, List.dropWhile_cons, List.dropWhile_cons, isBlank_toLower, ih]
      split <;> rfl

theorem map_toLower_trim (text : String) :
    (trim text).toList.map Char.toLower =
      trimEnd (trimStart (text.toList.map Char.toLower)) := by
  simp only [trim, trimEnd, trimStart, String.toList_ofList, dropBlanks_map_toLower,
    ← List.map_reverse]

theorem SameButForCase.trim {first second : String} (same : SameButForCase first second) :
    SameButForCase (trim first) (trim second) := by
  unfold SameButForCase at same ⊢
  rw [map_toLower_trim, map_toLower_trim, same]

theorem SameButForCase.ne_empty {first second : String} (same : SameButForCase first second)
    (nonempty : first ≠ "") : second ≠ "" := by
  rintro rfl
  apply nonempty
  apply String.toList_inj.mp
  exact List.map_eq_nil_iff.mp same

end Text

end StoreGate
