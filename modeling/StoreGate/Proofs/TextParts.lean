import StoreGate.Text.Split
/-!
# Where texts are divided

A text is divided at the first occurrence of a mark, so the part before it never holds the mark, and
the two parts are the only ones that give the text when they are joined.
-/

namespace StoreGate.Text

/-- A change that leaves every character of a text alone leaves the text alone. -/
theorem map_of_fixed {change : Char → Char} {text : List Char}
    (fixed : ∀ char ∈ text, change char = char) : text.map change = text :=
  (List.map_congr_left fixed).trans (List.map_id _)

theorem dropWhile_of_kept {dropped : Char → Bool} {text : List Char}
    (kept : ∀ char ∈ text, dropped char = false) : text.dropWhile dropped = text := by
  cases text with
  | nil => rfl
  | cons first rest => rw [List.dropWhile_cons_of_neg (by simp [kept first])]

theorem occursIn_iff {part text : List Char} : occursIn part text = true ↔ part <:+: text := by
  induction text with
  | nil => rw [occursIn, List.isEmpty_iff, List.infix_nil]
  | cons char rest ih =>
      rw [occursIn, Bool.or_eq_true, List.isPrefixOf_iff_prefix, ih, List.infix_cons_iff]

/-- Texts joined by a mark that their first parts lack have the same parts. -/
theorem append_mark_inj {mark : Char} {before other after rest : List Char}
    (absent : mark ∉ before) (otherAbsent : mark ∉ other)
    (same : before ++ mark :: after = other ++ mark :: rest) : before = other ∧ after = rest := by
  have divided := splitAt?_eq_some_iff.mpr ⟨absent, same.symm⟩
  rw [splitAt?_eq_some_iff.mpr ⟨otherAbsent, rfl⟩] at divided
  simpa [eq_comm] using divided

theorem splitAt?_of_not_mem {mark : Char} {text : List Char} (absent : mark ∉ text) :
    splitAt? mark text = none := by
  cases divided : splitAt? mark text with
  | none => rfl
  | some sides =>
      rw [(splitAt?_eq_some_iff.mp divided).2] at absent
      exact absurd (List.mem_append_right _ List.mem_cons_self) absent

theorem afterText?_eq_some_iff {beginning text rest : String} :
    afterText? beginning text = some rest ↔ text = beginning ++ rest := by
  simp only [afterText?, Option.map_eq_some_iff, after?_eq_some_iff]
  constructor
  · rintro ⟨characters, split, rfl⟩
    apply String.toList_inj.mp
    simpa using split
  · rintro rfl
    exact ⟨rest.toList, by simp, by simp⟩

theorem splitTextAt?_eq_some_iff {mark : Char} {text before after : String} :
    splitTextAt? mark text = some (before, after) ↔
      mark ∉ before.toList ∧ text = before ++ String.singleton mark ++ after := by
  simp only [splitTextAt?, Option.map_eq_some_iff, Prod.exists, Prod.mk.injEq,
    splitAt?_eq_some_iff]
  constructor
  · rintro ⟨first, second, ⟨absent, split⟩, rfl, rfl⟩
    refine ⟨by simpa using absent, ?_⟩
    apply String.toList_inj.mp
    simpa using split
  · rintro ⟨absent, rfl⟩
    exact ⟨before.toList, after.toList, ⟨absent, by simp⟩, by simp, by simp⟩

/-- The first field ends at the first separator, or is the whole text. -/
theorem fields_eq_cons {separator : Char} {text first : List Char} {rest : List (List Char)}
    (divided : fields separator text = first :: rest) : separator ∉ first ∧
      (text = first ∧ rest = [] ∨
        ∃ after, text = first ++ separator :: after ∧ fields separator after = rest) := by
  induction text generalizing first rest with
  | nil =>
      cases divided
      exact ⟨List.not_mem_nil, Or.inl ⟨rfl, rfl⟩⟩
  | cons char text ih =>
      rw [fields] at divided
      split at divided
      · rename_i same
        cases divided
        exact ⟨List.not_mem_nil, Or.inr ⟨text, by rw [same]; rfl, rfl⟩⟩
      · rename_i differ
        split at divided
        · rename_i none
          exact absurd none (fields_ne_nil separator text)
        · rename_i begun others found
          cases divided
          obtain ⟨absent, ends⟩ := ih found
          refine ⟨by simp [absent, Ne.symm differ], ?_⟩
          rcases ends with ⟨rfl, rfl⟩ | ⟨after, rfl, others⟩
          · exact Or.inl ⟨rfl, rfl⟩
          · exact Or.inr ⟨after, rfl, others⟩

theorem not_mem_of_mem_fields {separator : Char} {text field : List Char}
    (member : field ∈ fields separator text) : separator ∉ field := by
  generalize divided : fields separator text = all at member
  induction all generalizing text with
  | nil => cases member
  | cons first rest ih =>
      obtain ⟨absent, ends⟩ := fields_eq_cons divided
      rcases List.mem_cons.mp member with rfl | later
      · exact absent
      · rcases ends with ⟨_, rfl⟩ | ⟨after, _, others⟩
        · cases later
        · exact ih others later

theorem sublist_of_mem_fields {separator : Char} {text field : List Char}
    (member : field ∈ fields separator text) : field.Sublist text := by
  generalize divided : fields separator text = all at member
  induction all generalizing text with
  | nil => cases member
  | cons first rest ih =>
      obtain ⟨_, ends⟩ := fields_eq_cons divided
      rcases List.mem_cons.mp member with rfl | later
      · rcases ends with ⟨rfl, _⟩ | ⟨after, rfl, _⟩
        · exact List.Sublist.refl _
        · exact List.sublist_append_left _ _
      · rcases ends with ⟨_, rfl⟩ | ⟨after, rfl, others⟩
        · cases later
        · exact ((ih others later).cons separator).trans (List.sublist_append_right _ _)

/-- What has no separator becomes part of the first field behind it. -/
theorem fields_append_of_fields {separator : Char} {part text first : List Char}
    {others : List (List Char)} (absent : separator ∉ part)
    (divided : fields separator text = first :: others) :
    fields separator (part ++ text) = (part ++ first) :: others := by
  induction part with
  | nil => exact divided
  | cons char part ih =>
      rw [List.mem_cons, not_or] at absent
      rw [List.cons_append, fields, if_neg (Ne.symm absent.1), ih absent.2]
      rfl

/-- The fields of two texts with a separator between them are the fields of both. -/
theorem fields_append_separator (separator : Char) (text rest : List Char) :
    fields separator (text ++ separator :: rest) =
      fields separator text ++ fields separator rest := by
  induction text with
  | nil => exact fields_append List.not_mem_nil rest
  | cons char text ih =>
      rw [List.cons_append, fields, fields, ih]
      split
      · rw [List.cons_append]
      · cases divided : fields separator text with
        | nil => exact absurd divided (fields_ne_nil separator text)
        | cons first others => rfl

theorem length_fields_eq_one_iff {separator : Char} {text : List Char} :
    (fields separator text).length = 1 ↔ separator ∉ text := by
  constructor
  · intro single
    obtain ⟨only, divided⟩ := List.length_eq_one_iff.mp single
    obtain ⟨absent, ⟨rfl, _⟩ | ⟨after, _, none⟩⟩ := fields_eq_cons divided
    · exact absent
    · exact absurd none (fields_ne_nil separator after)
  · intro absent
    rw [fields_of_not_mem absent, List.length_singleton]

end StoreGate.Text
