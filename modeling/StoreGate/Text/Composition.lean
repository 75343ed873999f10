import StoreGate.Text.CompositionTable
import StoreGate.Text.Marks
/-!
# Composed text

Text in which a character with marks is written with as few characters as possible, and the marks
that remain stand in one order. Text is taken apart, its marks are sorted, and it is put together
again. The syllables of Hangul are computed from their letters.
-/

namespace StoreGate.Text

/-- The character that stands after another one in a text of pairs. -/
def partner? (first : Char) : List Char → Option Char
  | key :: value :: rest => if key = first then some value else partner? first rest
  | _ => none

/-- The character that stands before another one in a text of pairs. -/
def keyOf? (second : Char) : List Char → Option Char
  | key :: value :: rest => if value = second then some key else keyOf? second rest
  | _ => none

/-- The first part and the second part of a composed character. -/
def parts? (char : Char) : Option (Char × Char) :=
  let code := char.toNat
  if code < 0xc0 then none
  else if 0xac00 ≤ code ∧ code ≤ 0xd7a3 then
    let index := code - 0xac00
    if index % 28 = 0 then
      some (Char.ofNat (0x1100 + index / 588), Char.ofNat (0x1161 + index / 28 % 21))
    else some (Char.ofNat (code - index % 28), Char.ofNat (0x11a7 + index % 28))
  else
    compositions.findSome? fun entry =>
      (keyOf? char entry.2.toList).map (·, Char.ofNat entry.1)

/-- The character that two others are composed to. -/
def composed? (first second : Char) : Option Char :=
  let lead := first.toNat
  let next := second.toNat
  if 0x1100 ≤ lead ∧ lead ≤ 0x1112 ∧ 0x1161 ≤ next ∧ next ≤ 0x1175 then
    some (Char.ofNat (0xac00 + ((lead - 0x1100) * 21 + (next - 0x1161)) * 28))
  else if 0xac00 ≤ lead ∧ lead ≤ 0xd7a3 ∧ (lead - 0xac00) % 28 = 0 ∧ 0x11a8 ≤ next ∧
      next ≤ 0x11c2 then
    some (Char.ofNat (lead + (next - 0x11a7)))
  else
    (compositions.filter (·.1 = next)).findSome? fun entry => partner? first entry.2.toList

/-- The characters that a character is made of. Only first parts are composed themselves, and none
more than twice. -/
def takenApart : (depth : Nat) → Char → List Char
  | 0, char => [char]
  | depth + 1, char =>
    match parts? char with
    | none => [char]
    | some (first, second) => takenApart depth first ++ [second]

/-- Puts a mark behind the marks before it whose classes are not greater. The text before it stands in
reverse. -/
def placeMark (mark : Char) : List Char → List Char
  | [] => [mark]
  | last :: before =>
    if combiningClass mark < combiningClass last then last :: placeMark mark before
    else mark :: last :: before

/-- Sorts the marks on each character by their classes; marks of one class stay in order. -/
def orderMarks (text : List Char) : List Char :=
  (text.foldl (fun before char =>
    if combiningClass char = 0 then char :: before else placeMark char before) []).reverse

/-- Puts characters together. The marks that stand between the last character of class zero and the
rest are given in reverse; they part it from any mark whose class is not greater than theirs. -/
def putTogether (base : Char) (between : List Char) : List Char → List Char
  | [] => base :: between.reverse
  | char :: rest =>
    let isNear := between.head?.all fun last => combiningClass last < combiningClass char
    match if isNear then composed? base char else none with
    | some composed => putTogether composed between rest
    | none =>
      if combiningClass char = 0 then base :: (between.reverse ++ putTogether char [] rest)
      else putTogether base (char :: between) rest

/-- The composed form of a text. -/
def compose (text : List Char) : List Char :=
  let ordered := orderMarks (text.flatMap (takenApart 3))
  let leading := ordered.takeWhile (combiningClass · ≠ 0)
  match ordered.drop leading.length with
  | [] => leading
  | base :: rest => leading ++ putTogether base [] rest

end StoreGate.Text
