/-!
# Parts of a text

What follows a beginning, the two sides of the first occurrence of a mark, and the fields between
all occurrences of a separator.
-/

namespace StoreGate.Text

/-- What follows a beginning. -/
def after? : (beginning text : List Char) → Option (List Char)
  | [], text => some text
  | _ :: _, [] => none
  | expected :: beginning, char :: text => if char = expected then after? beginning text else none

theorem after?_eq_some_iff {beginning text rest : List Char} :
    after? beginning text = some rest ↔ text = beginning ++ rest := by
  induction beginning generalizing text with
  | nil => simp [after?]
  | cons expected beginning ih =>
    cases text with
    | nil => simp [after?]
    | cons char text =>
      simp only [after?]
      split
      · rename_i same
        simp [ih, same]
      · rename_i differ
        simp [differ]

/-- What follows a beginning of a text. -/
def afterText? (beginning text : String) : Option String :=
  (after? beginning.toList text.toList).map String.ofList

/-- The two sides of the first occurrence of a character. -/
def splitAt? (mark : Char) : List Char → Option (List Char × List Char)
  | [] => none
  | char :: rest =>
    if char = mark then some ([], rest)
    else (splitAt? mark rest).map fun sides => (char :: sides.1, sides.2)

theorem splitAt?_eq_some_iff {mark : Char} {text before after : List Char} :
    splitAt? mark text = some (before, after) ↔ mark ∉ before ∧ text = before ++ mark :: after := by
  induction text generalizing before with
  | nil => simp [splitAt?]
  | cons char rest ih =>
    simp only [splitAt?]
    split
    · rename_i same
      subst same
      cases before with
      | nil => simp [eq_comm]
      | cons first before =>
        simp only [Option.some.injEq, Prod.mk.injEq, List.mem_cons, not_or, List.cons_append,
          List.cons.injEq]
        constructor
        · rintro ⟨empty, _⟩
          cases empty
        · rintro ⟨⟨differ, _⟩, same, _⟩
          exact absurd same differ
    · rename_i differ
      simp only [Option.map_eq_some_iff, Prod.exists, Prod.mk.injEq]
      cases before with
      | nil =>
        constructor
        · rintro ⟨_, _, _, empty, _⟩
          cases empty
        · rintro ⟨_, same⟩
          exact absurd (List.cons.inj same).1 differ
      | cons first before =>
        constructor
        · rintro ⟨before', after', found, same, rfl⟩
          obtain ⟨rfl, rfl⟩ := List.cons.inj same
          obtain ⟨absent, rfl⟩ := ih.1 found
          exact ⟨by simp [Ne.symm differ, absent], rfl⟩
        · rintro ⟨absent, same⟩
          obtain ⟨rfl, rfl⟩ := List.cons.inj same
          exact ⟨before, after, ih.2 ⟨fun member => absent (List.mem_cons_of_mem _ member), rfl⟩,
            rfl, rfl⟩

/-- The two sides of the first occurrence of a character in a text. -/
def splitTextAt? (mark : Char) (text : String) : Option (String × String) :=
  (splitAt? mark text.toList).map fun sides => (String.ofList sides.1, String.ofList sides.2)

/-- The two sides of the first occurrence of a mark of several characters. -/
def splitAtMark? (mark : List Char) : List Char → Option (List Char × List Char)
  | [] => (after? mark []).map fun after => ([], after)
  | char :: rest =>
    match after? mark (char :: rest) with
    | some after => some ([], after)
    | none => (splitAtMark? mark rest).map fun sides => (char :: sides.1, sides.2)

/-- Splits at every separator; there is always one field more than there are separators. -/
def fields (separator : Char) : List Char → List (List Char)
  | [] => [[]]
  | char :: rest =>
    if char = separator then [] :: fields separator rest
    else
      match fields separator rest with
      | [] => [[char]]
      | first :: others => (char :: first) :: others

theorem fields_ne_nil (separator : Char) (text : List Char) : fields separator text ≠ [] := by
  cases text with
  | nil => simp [fields]
  | cons char rest =>
    simp only [fields]
    split
    · simp
    · split <;> simp

theorem fields_of_not_mem {separator : Char} {text : List Char} (absent : separator ∉ text) :
    fields separator text = [text] := by
  induction text with
  | nil => rfl
  | cons char rest ih =>
    simp only [List.mem_cons, not_or] at absent
    simp [fields, Ne.symm absent.1, ih absent.2]

theorem fields_append {separator : Char} {first : List Char} (absent : separator ∉ first)
    (rest : List Char) :
    fields separator (first ++ separator :: rest) = first :: fields separator rest := by
  induction first with
  | nil => simp [fields]
  | cons char first ih =>
    simp only [List.mem_cons, not_or] at absent
    simp [fields, Ne.symm absent.1, ih absent.2]

/-- Whether a text occurs in another one. -/
def occursIn (part : List Char) : List Char → Bool
  | [] => part.isEmpty
  | char :: rest => part.isPrefixOf (char :: rest) || occursIn part rest

/-- The fields put together again. -/
def join (separator : List Char) (texts : List (List Char)) : List Char :=
  List.intercalate separator texts

end StoreGate.Text
