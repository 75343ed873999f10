/-!
# Sets of characters

Properties of characters as ranges of code points.
-/

namespace StoreGate.Text

/-- Whether one of some ranges holds a character. Both ends of a range belong to it. -/
def inRanges (ranges : List (Nat × Nat)) (char : Char) : Bool :=
  ranges.any fun range => range.1 ≤ char.toNat && char.toNat ≤ range.2

theorem inRanges_of_mem {ranges : List (Nat × Nat)} {low high : Nat} {char : Char}
    (member : (low, high) ∈ ranges) (above : low ≤ char.toNat) (below : char.toNat ≤ high) :
    inRanges ranges char = true :=
  List.any_eq_true.mpr ⟨(low, high), member, by simp [above, below]⟩

/-- No range holds a character from a stretch that all of them leave out. -/
theorem inRanges_of_apart {ranges : List (Nat × Nat)} {low high : Nat} {char : Char}
    (apart : ∀ range ∈ ranges, range.2 < low ∨ high < range.1) (above : low ≤ char.toNat)
    (below : char.toNat ≤ high) : inRanges ranges char = false := by
  apply List.any_eq_false.mpr
  intro range member
  have outside : ¬ (range.1 ≤ char.toNat ∧ char.toNat ≤ range.2) := by
    have stretch := apart range member
    omega
  simpa using outside

end StoreGate.Text
