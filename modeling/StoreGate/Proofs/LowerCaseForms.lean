import Mathlib.Data.List.Infix
import StoreGate.Proofs.AsciiCase
import StoreGate.Text.LowerCase
/-!
# Lowercase forms of parts of a text

A character has one lowercase form, except a capital sigma: whether it takes the final form depends
on its nearest neighbours that are not passed over.  So the form of a part is found in the form of
the whole text as long as the part tells the forms of its sigmas by itself.  Where it does not, one
more letter at one of its ends changes its form.

The case of ASCII letters makes no difference, neither to their own forms nor to those of sigmas
beside them.
-/

namespace StoreGate.Text

variable {before rest text : List Char} {sigma letter : Char}

/-- The nearest character that is not passed over. -/
def nearest? (neighbours : List Char) : Option Char :=
  neighbours.find? fun char => !isIgnorable char

/-- Whether a sigma takes the final form, given what stands before it in reverse. -/
def isFinal (before rest : List Char) : Bool :=
  meetsCased before && !meetsCased rest

def sigmaForm (final : Bool) : Char :=
  Char.ofNat (if final then 0x3c2 else 0x3c3)

def charForm (before rest : List Char) (char : Char) : List Char :=
  if char.toNat = 0x3a3 then [sigmaForm (isFinal before rest)] else lowerCaseChar char

/-- The form of a part of a text, given what stands before the part in reverse and what stands
behind it. -/
def partForm (before after : List Char) : List Char → List Char
  | [] => []
  | char :: part => charForm before (part ++ after) char ++ partForm (char :: before) after part

/-- Whether a sigma has the same form in every longer text: both its neighbours are there, or the
one that is there excludes the final form. -/
def isSettled (before rest : List Char) : Bool :=
  (nearest? before).any (!isCased ·) || (nearest? rest).any isCased ||
    (nearest? before).isSome && (nearest? rest).isSome

/-- Whether all sigmas of a text are settled, given what stands before it in reverse. -/
def tellsFormsAfter (before : List Char) : List Char → Bool
  | [] => true
  | char :: rest =>
    (char.toNat ≠ 0x3a3 || isSettled before rest) && tellsFormsAfter (char :: before) rest

/-- Whether a text tells the forms of its sigmas by itself. -/
def tellsForms (text : List Char) : Bool :=
  tellsFormsAfter [] text

section Neighbours

theorem meetsCased_eq (neighbours : List Char) :
    meetsCased neighbours = (nearest? neighbours).any isCased := by
  induction neighbours with
  | nil => rfl
  | cons char neighbours ih =>
      unfold meetsCased nearest? at ih ⊢
      cases ignorable : isIgnorable char with
      | true => simpa [ignorable] using ih
      | false => simp [ignorable]

theorem nearest?_append (first second : List Char) :
    nearest? (first ++ second) = (nearest? first).or (nearest? second) :=
  List.find?_append

theorem isFinal_of_settled (settled : isSettled before rest = true) (earlier after : List Char) :
    isFinal (before ++ earlier) (rest ++ after) = isFinal before rest := by
  unfold isSettled at settled
  simp only [isFinal, meetsCased_eq, nearest?_append]
  cases left : nearest? before with
  | none => cases right : nearest? rest <;> simp_all
  | some char => cases right : nearest? rest <;> simp_all

/-- A sigma that is not settled lacks a neighbour, and the other one does not exclude the final
form. -/
theorem neighbours_of_unsettled (unsettled : isSettled before rest = false) :
    (nearest? before = none ∧ (nearest? rest).any isCased = false) ∨
      ((nearest? before).any isCased = true ∧ nearest? rest = none) := by
  unfold isSettled at unsettled
  cases left : nearest? before with
  | none => simp_all
  | some char => cases right : nearest? rest <;> simp_all

end Neighbours

section Parts

theorem lowerCaseAfter_cons (before rest : List Char) (char : Char) :
    lowerCaseAfter before (char :: rest) =
      charForm before rest char ++ lowerCaseAfter (char :: before) rest :=
  rfl

theorem lowerCaseAfter_append (before part after : List Char) :
    lowerCaseAfter before (part ++ after) =
      partForm before after part ++ lowerCaseAfter (part.reverse ++ before) after := by
  induction part generalizing before with
  | nil => rfl
  | cons char part ih => simp [lowerCaseAfter_cons, partForm, ih]

theorem partForm_nil (before part : List Char) :
    partForm before [] part = lowerCaseAfter before part := by
  induction part generalizing before with
  | nil => rfl
  | cons char part ih => simp [lowerCaseAfter_cons, partForm, ih]

theorem partForm_append (before after first second : List Char) :
    partForm before after (first ++ second) =
      partForm before (second ++ after) first ++
        partForm (first.reverse ++ before) after second := by
  induction first generalizing before with
  | nil => rfl
  | cons char first ih => simp [partForm, ih]

theorem length_charForm (before rest : List Char) (char : Char) :
    (charForm before rest char).length = (lowerCaseChar char).length := by
  unfold charForm
  split
  · rename_i isSigma
    simp [lowerCaseChar, isSigma]
  · rfl

theorem lowerCase_ne_nil (nonempty : text ≠ []) : lowerCase text ≠ [] := by
  cases text with
  | nil => exact absurd rfl nonempty
  | cons char text =>
      have positive : 0 < (charForm [] text char).length := by
        rw [length_charForm]
        unfold lowerCaseChar
        split_ifs <;> simp
      rw [lowerCase, lowerCaseAfter_cons]
      exact List.append_ne_nil_of_left_ne_nil (List.ne_nil_of_length_pos positive) _

/-- What stands around a part does not change the length of its form. -/
theorem length_partForm (before after part : List Char) :
    (partForm before after part).length = (part.flatMap lowerCaseChar).length := by
  induction part generalizing before with
  | nil => rfl
  | cons char part ih =>
      simp only [partForm, List.flatMap_cons, List.length_append, length_charForm, ih]

theorem length_lowerCase (before after text : List Char) :
    (lowerCase text).length = (partForm before after text).length := by
  rw [lowerCase, ← partForm_nil, length_partForm, length_partForm]

theorem tellsFormsAfter_cons {char : Char} : tellsFormsAfter before (char :: rest) = true ↔
    (char.toNat = 0x3a3 → isSettled before rest = true) ∧
      tellsFormsAfter (char :: before) rest = true := by
  simp [tellsFormsAfter, imp_iff_not_or]

theorem partForm_of_tells {part : List Char} (tells : tellsFormsAfter before part = true)
    (earlier after : List Char) :
    partForm (before ++ earlier) after part = lowerCaseAfter before part := by
  induction part generalizing before with
  | nil => rfl
  | cons char part ih =>
      obtain ⟨settled, others⟩ := tellsFormsAfter_cons.mp tells
      have same :
          charForm (before ++ earlier) (part ++ after) char = charForm before part char := by
        unfold charForm
        split
        · rename_i isSigma
          rw [isFinal_of_settled (settled isSigma)]
        · rfl
      rw [partForm, lowerCaseAfter_cons, same, ← ih others, List.cons_append]

/-- The form of a text that tells the forms of its sigmas is found wherever the text is. -/
theorem lowerCase_infix (tells : tellsForms text = true) {whole : List Char}
    (isPart : text <:+: whole) : lowerCase text <:+: lowerCase whole := by
  obtain ⟨earlier, after, rfl⟩ := isPart
  have inside : partForm earlier.reverse after text = lowerCase text :=
    partForm_of_tells tells earlier.reverse after
  have split : lowerCase (earlier ++ text ++ after) = partForm [] (text ++ after) earlier ++
      lowerCase text ++ lowerCaseAfter (text.reverse ++ earlier.reverse) after := by
    rw [lowerCase, List.append_assoc, lowerCaseAfter_append, List.append_nil,
      lowerCaseAfter_append, inside, List.append_assoc]
  rw [split]
  exact List.infix_append _ _ _

end Parts

section OneMore

variable {α : Type} {first last : α} {part whole : List α}

theorem eq_or_head?_of_infix_cons (sameLength : part.length = whole.length)
    (isPart : part <:+: first :: whole) : part = whole ∨ part.head? = some first := by
  rcases List.infix_cons_iff.mp isPart with front | inside
  · cases part with
    | nil =>
        left
        exact (List.length_eq_zero_iff.mp sameLength.symm).symm
    | cons char part =>
        right
        rw [List.head?_cons, (List.cons_prefix_cons.mp front).1]
  · left
    exact inside.eq_of_length sameLength

theorem eq_or_getLast?_of_infix_concat (sameLength : part.length = whole.length)
    (isPart : part <:+: whole ++ [last]) : part = whole ∨ part.getLast? = some last := by
  have reversed : part.reverse <:+: last :: whole.reverse := by
    simpa using List.reverse_infix.mpr isPart
  rcases eq_or_head?_of_infix_cons (by simpa using sameLength) reversed with same | begins
  · left
    exact List.reverse_injective same
  · right
    rwa [List.head?_reverse] at begins

end OneMore

section Letters

/-- What changes the form of a sigma beside it and keeps its own form. -/
structure IsLetter (letter : Char) : Prop where
  cased : isCased letter = true
  seen : isIgnorable letter = false
  form : lowerCaseChar letter = [letter]
  noSigma : letter.toNat ≠ 0x3a3

theorem exists_letter_ne (char : Option Char) : ∃ letter, IsLetter letter ∧ char ≠ some letter := by
  by_cases isX : char = some 'x'
  · refine ⟨'y', ⟨?_, ?_, ?_, ?_⟩, by rw [isX]; decide⟩ <;> decide +kernel
  · refine ⟨'x', ⟨?_, ?_, ?_, ?_⟩, isX⟩ <;> decide +kernel

theorem IsLetter.nearest?_eq (isLetter : IsLetter letter) : nearest? [letter] = some letter := by
  simp [nearest?, isLetter.seen]

theorem IsLetter.charForm_eq (isLetter : IsLetter letter) (before rest : List Char) :
    charForm before rest letter = [letter] := by
  rw [charForm, if_neg isLetter.noSigma, isLetter.form]

theorem IsLetter.lowerCase_cons (isLetter : IsLetter letter) (text : List Char) :
    lowerCase (letter :: text) = letter :: partForm [letter] [] text := by
  rw [lowerCase, lowerCaseAfter_cons, isLetter.charForm_eq, partForm_nil, List.singleton_append]

theorem IsLetter.lowerCase_concat (isLetter : IsLetter letter) (text : List Char) :
    lowerCase (text ++ [letter]) = partForm [] [letter] text ++ [letter] := by
  rw [lowerCase, lowerCaseAfter_append, lowerCaseAfter_cons, isLetter.charForm_eq]
  rfl

/-- A sigma without a neighbour before it takes the final form behind a letter. -/
theorem IsLetter.changes_behind (isLetter : IsLetter letter) (alone : nearest? before = none)
    (allowed : (nearest? rest).any isCased = false) :
    isFinal before rest ≠ isFinal (before ++ [letter]) (rest ++ []) := by
  simp [isFinal, meetsCased_eq, nearest?_append, alone, allowed, isLetter.nearest?_eq,
    isLetter.cased]

/-- A final sigma without a neighbour behind it takes the plain form before a letter. -/
theorem IsLetter.changes_before (isLetter : IsLetter letter)
    (cased : (nearest? before).any isCased = true) (alone : nearest? rest = none) :
    isFinal before rest ≠ isFinal (before ++ []) (rest ++ [letter]) := by
  simp [isFinal, meetsCased_eq, nearest?_append, alone, cased, isLetter.nearest?_eq,
    isLetter.cased]

theorem exists_unsettled {part : List Char} (untold : tellsFormsAfter before part = false) :
    ∃ first sigma rest, part = first ++ sigma :: rest ∧ sigma.toNat = 0x3a3 ∧
      isSettled (first.reverse ++ before) rest = false := by
  induction part generalizing before with
  | nil => cases untold
  | cons char part ih =>
      cases others : tellsFormsAfter (char :: before) part with
      | false =>
          obtain ⟨first, sigma, rest, rfl, isSigma, unsettled⟩ := ih others
          exact ⟨char :: first, sigma, rest, rfl, isSigma, by simpa using unsettled⟩
      | true =>
          have here : char.toNat = 0x3a3 ∧ isSettled before part = false := by
            simpa [tellsFormsAfter, others] using untold
          exact ⟨[], char, part, rfl, here.1, here.2⟩

theorem sigmaForm_injective : ∀ final other, sigmaForm final = sigmaForm other → final = other := by
  decide

/-- What stands around a text and changes the form of one of its sigmas changes the form of the
text. -/
theorem partForm_ne {first after : List Char} (isSigma : sigma.toNat = 0x3a3)
    (changed : isFinal first.reverse rest ≠
      isFinal (first.reverse ++ before) (rest ++ after)) :
    lowerCase (first ++ sigma :: rest) ≠ partForm before after (first ++ sigma :: rest) := by
  intro same
  rw [lowerCase, ← partForm_nil, partForm_append, partForm_append] at same
  have forms := (List.append_inj same (by rw [length_partForm, length_partForm])).2
  rw [partForm, partForm, List.append_nil, List.append_nil] at forms
  have sigmas := (List.append_inj forms (by rw [length_charForm, length_charForm])).1
  rw [charForm, charForm, if_pos isSigma, if_pos isSigma, List.singleton_inj] at sigmas
  exact changed (sigmaForm_injective _ _ sigmas)

/-- A text that does not tell the forms of its sigmas stands in a longer one whose form lacks the
form of the text. -/
theorem exists_not_infix (untold : tellsForms text = false) :
    ∃ whole, text <:+: whole ∧ ¬ lowerCase text <:+: lowerCase whole := by
  obtain ⟨first, sigma, rest, rfl, isSigma, unsettled⟩ := exists_unsettled untold
  rw [List.append_nil] at unsettled
  -- The letter is not at that end of the form, so the form could only be all of the rest.
  rcases neighbours_of_unsettled unsettled with ⟨noneBefore, allowed⟩ | ⟨casedBefore, noneBehind⟩
  · obtain ⟨letter, isLetter, differs⟩ :=
      exists_letter_ne (lowerCase (first ++ sigma :: rest)).head?
    refine ⟨letter :: (first ++ sigma :: rest), List.infix_cons List.infix_rfl, fun isPart => ?_⟩
    rw [isLetter.lowerCase_cons] at isPart
    rcases eq_or_head?_of_infix_cons (length_lowerCase _ _ _) isPart with same | begins
    · exact partForm_ne isSigma (isLetter.changes_behind noneBefore allowed) same
    · exact differs begins
  · obtain ⟨letter, isLetter, differs⟩ :=
      exists_letter_ne (lowerCase (first ++ sigma :: rest)).getLast?
    refine ⟨(first ++ sigma :: rest) ++ [letter], ⟨[], [letter], rfl⟩, fun isPart => ?_⟩
    rw [isLetter.lowerCase_concat] at isPart
    rcases eq_or_getLast?_of_infix_concat (length_lowerCase _ _ _) isPart with same | ends
    · exact partForm_ne isSigma (isLetter.changes_before casedBefore noneBehind) same
    · exact differs ends

theorem lowerCase_infix_iff :
    (∀ whole, text <:+: whole → lowerCase text <:+: lowerCase whole) ↔
      tellsForms text = true := by
  constructor
  · intro found
    by_contra untold
    obtain ⟨whole, isPart, lost⟩ := exists_not_infix (Bool.eq_false_iff.mpr untold)
    exact lost (found whole isPart)
  · intro tells whole isPart
    exact lowerCase_infix tells isPart

end Letters

section Ascii

theorem isCased_toLower (char : Char) : isCased char.toLower = isCased char := by
  rcases toLower_cases char with same | ⟨above, below, lowered⟩
  · rw [same]
  · have capitals : (0x41, 0x5a) ∈ casedRanges := by decide
    have letters : (0x61, 0x7a) ∈ casedRanges := by decide
    have cased : isCased char = true := inRanges_of_mem capitals above below
    have still : isCased char.toLower = true := inRanges_of_mem letters (by omega) (by omega)
    rw [cased, still]

theorem isIgnorable_toLower (char : Char) : isIgnorable char.toLower = isIgnorable char := by
  rcases toLower_cases char with same | ⟨above, below, lowered⟩
  · rw [same]
  · have noCapital : ∀ range ∈ ignorableRanges, range.2 < 0x41 ∨ 0x5a < range.1 := by
      decide +kernel
    have noLetter : ∀ range ∈ ignorableRanges, range.2 < 0x61 ∨ 0x7a < range.1 := by
      decide +kernel
    have seen : isIgnorable char = false := inRanges_of_apart noCapital above below
    have still : isIgnorable char.toLower = false :=
      inRanges_of_apart noLetter (by omega) (by omega)
    rw [seen, still]

theorem lowerCaseChar_toLower (char : Char) : lowerCaseChar char.toLower = lowerCaseChar char :=
  eq_of_toLower_ascii lowerCaseChar (by decide +kernel) char

theorem isSigma_toLower (char : Char) :
    decide (char.toLower.toNat = 0x3a3) = decide (char.toNat = 0x3a3) :=
  eq_of_toLower_ascii (fun char => decide (char.toNat = 0x3a3)) (by decide +kernel) char

theorem meetsCased_map_toLower (neighbours : List Char) :
    meetsCased (neighbours.map Char.toLower) = meetsCased neighbours := by
  induction neighbours with
  | nil => rfl
  | cons char neighbours ih =>
      unfold meetsCased at ih ⊢
      cases ignorable : isIgnorable char with
      | true => simpa [isIgnorable_toLower, ignorable] using ih
      | false => simp [isIgnorable_toLower, isCased_toLower, ignorable]

theorem charForm_map_toLower (before rest : List Char) (char : Char) :
    charForm (before.map Char.toLower) (rest.map Char.toLower) char.toLower =
      charForm before rest char := by
  have sigmas := decide_eq_decide.mp (isSigma_toLower char)
  simp only [charForm, isFinal, meetsCased_map_toLower, lowerCaseChar_toLower, sigmas]

theorem lowerCaseAfter_map_toLower (before text : List Char) :
    lowerCaseAfter (before.map Char.toLower) (text.map Char.toLower) =
      lowerCaseAfter before text := by
  induction text generalizing before with
  | nil => rfl
  | cons char text ih =>
      rw [List.map_cons, lowerCaseAfter_cons, lowerCaseAfter_cons, charForm_map_toLower,
        ← List.map_cons, ih]

theorem SameButForCase.lowerCase_eq {first second : String} (same : SameButForCase first second) :
    lowerCase first.toList = lowerCase second.toList := by
  calc lowerCase first.toList
    _ = lowerCase (first.toList.map Char.toLower) := (lowerCaseAfter_map_toLower [] _).symm
    _ = lowerCase (second.toList.map Char.toLower) := congrArg lowerCase same
    _ = lowerCase second.toList := lowerCaseAfter_map_toLower [] _

end Ascii

end StoreGate.Text
