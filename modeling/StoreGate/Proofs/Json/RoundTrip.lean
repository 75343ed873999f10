import StoreGate.Proofs.Json.Numbers
/-!
# Documents are read as they were written

A value without decimals and without unreadable parts, whose integers fit in 64 bits, is read from
its compact form as itself.  The induction follows the value; each part is read in front of whatever
comes after it, with as much fuel as its characters pay for.
-/

namespace StoreGate.Json

mutual

/-- Whether the compact form says everything about the value. -/
def isExact : Json → Bool
  | .integer number => fitsInteger number
  | .decimal .. | .unreadable => false
  | .array items => areExact items
  | .object members => haveExactValues members
  | _ => true

def areExact : List Json → Bool
  | [] => true
  | item :: rest => isExact item && areExact rest

def haveExactValues : List (String × Json) → Bool
  | [] => true
  | (_, member) :: rest => isExact member && haveExactValues rest

end

/-- A character that a written value may begin with. -/
structure Opens (first : Char) : Prop where
  isAscii : first.toNat < 0x80
  notBlank : isBlank (ascii first) = false
  notBracket : ascii first ≠ ascii ']'
  notBrace : ascii first ≠ ascii '\x7d'

theorem ascii_ne_of_digit {char : Char} (digit : 48 ≤ char.toNat ∧ char.toNat ≤ 57) (byte : UInt8)
    (apart : byte.toNat < 48 ∨ 57 < byte.toNat) : ascii char ≠ byte := by
  rintro rfl
  have code : (ascii char).toNat = char.toNat := by
    simp [ascii]
    omega
  omega

theorem opens_of_digit {char : Char} (digit : 48 ≤ char.toNat ∧ char.toNat ≤ 57) : Opens char := by
  have other := ascii_ne_of_digit digit
  refine ⟨by omega, ?_, other _ (by decide), other _ (by decide)⟩
  simp [isBlank, other 0x20 (by decide), other 0x0a (by decide), other 0x09 (by decide),
    other 0x0d (by decide)]

theorem toDigits_eq_cons (number : Nat) :
    ∃ first others, Nat.toDigits 10 number = first :: others ∧
      48 ≤ first.toNat ∧ first.toNat ≤ 57 := by
  cases digits : Nat.toDigits 10 number with
  | nil => exact absurd digits Nat.toDigits_ne_nil
  | cons first others =>
      exact ⟨first, others, rfl, digit_bounds number (by rw [digits]; exact List.mem_cons_self)⟩

/-- No written value is empty, and none begins with what may stand around values. -/
theorem render_eq_cons {document : Json} (exact : document.isExact = true) :
    ∃ first others, render document = first :: others ∧ Opens first := by
  cases document with
  | null => exact ⟨'n', _, by rw [render], by decide, rfl, by decide, by decide⟩
  | boolean flag =>
      cases flag with
      | true => exact ⟨'t', _, by rw [render], by decide, rfl, by decide, by decide⟩
      | false => exact ⟨'f', _, by rw [render], by decide, rfl, by decide, by decide⟩
  | integer number =>
      cases number with
      | ofNat magnitude =>
          obtain ⟨first, others, digits, digit⟩ := toDigits_eq_cons magnitude
          exact ⟨first, others, by rw [render, integerText, digits], opens_of_digit digit⟩
      | negSucc magnitude =>
          exact ⟨'-', _, by rw [render, integerText], by decide, rfl, by decide, by decide⟩
  | decimal negative digits exponent => simp [isExact] at exact
  | string text => exact ⟨'"', _, by rw [render, quoted], by decide, rfl, by decide, by decide⟩
  | array items => exact ⟨'[', _, by rw [render], by decide, rfl, by decide, by decide⟩
  | object members => exact ⟨'\x7b', _, by rw [render], by decide, rfl, by decide, by decide⟩
  | unreadable => simp [isExact] at exact

theorem skipBlanks_render {document : Json} (exact : document.isExact = true) (rest : List UInt8) :
    skipBlanks (written (render document) ++ rest) = written (render document) ++ rest := by
  obtain ⟨first, others, shape, opens⟩ := render_eq_cons exact
  rw [shape, written_cons_of_ascii opens.isAscii]
  simp [skipBlanks, opens.notBlank]

theorem skipBlanks_cons {byte : UInt8} (notBlank : isBlank byte = false) (rest : List UInt8) :
    skipBlanks (byte :: rest) = byte :: rest := by
  simp [skipBlanks, notBlank]

/-- A mark between or after values ends a number. -/
theorem endsNumber_cons {byte : UInt8} (digit : isDigit byte = false) (dot : byte ≠ ascii '.')
    (small : byte ≠ ascii 'e') (large : byte ≠ ascii 'E') (rest : List UInt8) :
    EndsNumber (byte :: rest) := by
  intro other isHead
  cases isHead
  exact ⟨digit, dot, small, large⟩

theorem content_string (text : String) (rest : List UInt8) :
    content none (written (text.toList.flatMap escape) ++ ascii '"' :: rest) =
      some (Utf8.encode text, rest) := by
  rw [content_quoted, written, Utf8.encode_toList]

theorem written_quoted (text : String) (rest : List UInt8) :
    written (quoted text) ++ rest =
      ascii '"' :: (written (text.toList.flatMap escape) ++ ascii '"' :: rest) := by
  have isAscii : '"'.toNat < 0x80 := by decide
  rw [quoted, written_cons_of_ascii isAscii, written_append, written_cons_of_ascii isAscii]
  simp [written]

theorem value_quoted (fuel : Nat) (text : String) (rest : List UInt8) :
    Json.value (fuel + 1) (written (quoted text) ++ rest) = some (.string text, rest) := by
  rw [written_quoted, Json.value]
  simp [content_string, ofContent, Utf8.decode?_encode]

theorem value_integer (fuel : Nat) {number : Int} (fits : fitsInteger number = true)
    {rest : List UInt8} (ends : EndsNumber rest) :
    Json.value (fuel + 1) (written (integerText number) ++ rest) =
      some (.integer number, rest) := by
  cases number with
  | ofNat magnitude =>
      have read := number_toDigits false magnitude ends
      have parts := ofParts_written false magnitude fits (by simp)
      obtain ⟨first, others, digits, digit⟩ := toDigits_eq_cons magnitude
      have other := ascii_ne_of_digit digit
      rw [parts] at read
      rw [integerText]
      rw [digits, written_cons_of_ascii (by omega)] at read ⊢
      rw [List.cons_append, Json.value]
      simp only [other (ascii '"') (by decide), other (ascii '\x7b') (by decide),
        other (ascii '[') (by decide), other (ascii 't') (by decide),
        other (ascii 'f') (by decide), other (ascii 'n') (by decide),
        other (ascii '-') (by decide), if_false]
      exact read
  | negSucc magnitude =>
      have read := number_toDigits true (magnitude + 1) ends
      have parts := ofParts_written true (magnitude + 1) fits (by simp)
      rw [parts] at read
      rw [integerText, written_cons_of_ascii (by decide), List.cons_append, Json.value]
      exact read

theorem renderItems_eq_cons {item : Json} (others : List Json) (exact : item.isExact = true) :
    ∃ first rest, renderItems (item :: others) = first :: rest ∧ Opens first := by
  obtain ⟨first, rest, shape, opens⟩ := render_eq_cons exact
  cases others with
  | nil => exact ⟨first, rest, by rw [renderItems, shape], opens⟩
  | cons next others =>
      exact ⟨first, _, by rw [renderItems, shape, List.cons_append]; simp, opens⟩

theorem renderMembers_eq_cons (member : String × Json) (others : List (String × Json)) :
    ∃ rest, renderMembers (member :: others) = '"' :: rest := by
  cases others with
  | nil => exact ⟨_, by rw [renderMembers, quoted, List.cons_append]⟩
  | cons next others => exact ⟨_, by rw [renderMembers, quoted, List.cons_append]; simp⟩

theorem value_bracket {fuel : Nat} {first : Char} {tail rest : List UInt8} {items : List Json}
    (opens : Opens first) (read : Json.items fuel (ascii first :: tail) = some (items, rest)) :
    Json.value (fuel + 1) (ascii '[' :: ascii first :: tail) = some (.array items, rest) := by
  rw [Json.value]
  have bracket : ascii '[' ≠ ascii '"' ∧ ascii '[' ≠ ascii '\x7b' := by decide
  simp [bracket, skipBlanks_cons opens.notBlank, opens.notBracket, read]

theorem value_brace {fuel : Nat} {tail rest : List UInt8} {found : List (String × Json)}
    (read : Json.members fuel (ascii '"' :: tail) = some (some found, rest)) :
    Json.value (fuel + 1) (ascii '\x7b' :: ascii '"' :: tail) = some (.object found, rest) := by
  rw [Json.value]
  have brace : ascii '\x7b' ≠ ascii '"' := by decide
  have quote : ascii '"' ≠ ascii '\x7d' := by decide
  have notBlank : isBlank (ascii '"') = false := by decide
  simp [brace, quote, skipBlanks_cons notBlank, read, ofMembers]

/-- A member is read as its name and what follows the colon. -/
theorem members_name (fuel : Nat) (name : String) (rest : List UInt8) :
    Json.members (fuel + 1) (written (quoted name) ++ ascii ':' :: rest) = (do
      let (member, rest) ← Json.value fuel (skipBlanks rest)
      match skipBlanks rest with
      | [] => none
      | byte :: rest =>
        if byte = ascii '\x7d' then some (addMember (Utf8.encode name) member (some []), rest)
        else if byte = ascii ',' then do
          let (others?, rest) ← Json.members fuel rest
          return (addMember (Utf8.encode name) member others?, rest)
        else none) := by
  have quote : isBlank (ascii '"') = false := by decide
  have colon : isBlank (ascii ':') = false := by decide
  have read := Json.members.eq_def (fuel + 1) (written (quoted name) ++ ascii ':' :: rest)
  rw [written_quoted] at read ⊢
  simp only [skipBlanks_cons quote, ↓reduceIte, content_string, Option.pure_def,
    Option.bind_eq_bind, Option.bind_some, skipBlanks_cons colon] at read
  exact read

mutual

/-- The fuel pays for two levels of the recursion with each character. -/
theorem value_render : (document : Json) → document.isExact = true → ∀ fuel rest,
    2 * (render document).length ≤ fuel → EndsNumber rest →
      Json.value fuel (written (render document) ++ rest) = some (document, rest)
  | .null, _, fuel + 1, rest, _, _ => by
      rw [render]
      rfl
  | .boolean true, _, fuel + 1, rest, _, _ => by
      rw [render]
      rfl
  | .boolean false, _, fuel + 1, rest, _, _ => by
      rw [render]
      rfl
  | .integer number, exact, fuel + 1, rest, _, ends => by
      rw [render]
      exact value_integer fuel (by simpa [isExact] using exact) ends
  | .string text, _, fuel + 1, rest, _, _ => by
      rw [render]
      exact value_quoted fuel text rest
  | .array [], _, fuel + 1, rest, _, _ => by
      rw [render]
      rfl
  | .array (item :: others), exact, fuel + 1, rest, enough, _ => by
      rw [isExact] at exact
      have itemExact : item.isExact = true := by
        rw [areExact, Bool.and_eq_true] at exact
        exact exact.1
      simp only [render, List.length_cons, List.length_append, List.length_nil] at enough
      have read := items_render item others exact fuel rest (by omega)
      obtain ⟨first, tail, shape, opens⟩ := renderItems_eq_cons others itemExact
      rw [shape, written_cons_of_ascii opens.isAscii, List.cons_append] at read
      rw [render, shape, written_cons_of_ascii (by decide), List.cons_append, List.cons_append,
        written_cons_of_ascii opens.isAscii, List.cons_append, written_append, List.append_assoc]
      exact value_bracket opens read
  | .object [], _, fuel + 1, rest, _, _ => by
      rw [render]
      rfl
  | .object (member :: others), exact, fuel + 1, rest, enough, _ => by
      rw [isExact] at exact
      simp only [render, List.length_cons, List.length_append, List.length_nil] at enough
      have read := members_render member others exact fuel rest (by omega)
      obtain ⟨tail, shape⟩ := renderMembers_eq_cons member others
      rw [shape, written_cons_of_ascii (by decide), List.cons_append] at read
      rw [render, shape, written_cons_of_ascii (by decide), List.cons_append, List.cons_append,
        written_cons_of_ascii (by decide), List.cons_append, written_append, List.append_assoc]
      exact value_brace read
  | document, exact, 0, rest, enough, _ => by
      obtain ⟨first, others, shape, _⟩ := render_eq_cons exact
      simp [shape] at enough

theorem items_render : (item : Json) → (others : List Json) → areExact (item :: others) = true →
    ∀ fuel rest, 2 * (renderItems (item :: others)).length + 1 ≤ fuel →
      Json.items fuel (written (renderItems (item :: others)) ++ ascii ']' :: rest) =
        some (item :: others, rest)
  | item, [], exact, fuel + 1, rest, enough => by
      simp only [areExact, Bool.and_true] at exact
      rw [renderItems] at enough ⊢
      have read := value_render item exact fuel (ascii ']' :: rest) (by omega)
        (endsNumber_cons (by decide) (by decide) (by decide) (by decide) rest)
      rw [Json.items, skipBlanks_render exact, read]
      rfl
  | item, next :: others, exact, fuel + 1, rest, enough => by
      rw [areExact, Bool.and_eq_true] at exact
      simp only [renderItems, List.length_append, List.length_cons] at enough
      have readItem := value_render item exact.1 fuel
        (ascii ',' :: (written (renderItems (next :: others)) ++ ascii ']' :: rest)) (by omega)
        (endsNumber_cons (by decide) (by decide) (by decide) (by decide) _)
      have readOthers := items_render next others exact.2 fuel rest (by omega)
      have comma : ascii ',' ≠ ascii ']' := by decide
      have notBlank : isBlank (ascii ',') = false := by decide
      rw [renderItems, written_append, written_cons_of_ascii (by decide), List.append_assoc,
        List.cons_append, Json.items, skipBlanks_render exact.1, readItem]
      · simp [skipBlanks_cons notBlank, comma, readOthers]
      · exact List.cons_ne_nil _ _

theorem members_render : (member : String × Json) → (others : List (String × Json)) →
    haveExactValues (member :: others) = true →
    ∀ fuel rest, 2 * (renderMembers (member :: others)).length + 1 ≤ fuel →
      Json.members fuel (written (renderMembers (member :: others)) ++ ascii '\x7d' :: rest) =
        some (some (member :: others), rest)
  | (name, document), [], exact, fuel + 1, rest, enough => by
      simp only [haveExactValues, Bool.and_true] at exact
      simp only [renderMembers, List.length_append, List.length_cons] at enough
      have read := value_render document exact fuel (ascii '\x7d' :: rest) (by omega)
        (endsNumber_cons (by decide) (by decide) (by decide) (by decide) rest)
      have brace : isBlank (ascii '\x7d') = false := by decide
      rw [renderMembers, written_append, written_cons_of_ascii (by decide), List.append_assoc,
        List.cons_append, members_name, skipBlanks_render exact, read]
      simp [skipBlanks_cons brace, addMember, Utf8.decode?_encode]
  | (name, document), next :: others, exact, fuel + 1, rest, enough => by
      rw [haveExactValues, Bool.and_eq_true] at exact
      simp only [renderMembers, List.length_append, List.length_cons] at enough
      have read := value_render document exact.1 fuel
        (ascii ',' :: (written (renderMembers (next :: others)) ++ ascii '\x7d' :: rest)) (by omega)
        (endsNumber_cons (by decide) (by decide) (by decide) (by decide) _)
      have readOthers := members_render next others exact.2 fuel rest (by omega)
      have comma : ascii ',' ≠ ascii '\x7d' := by decide
      have notBlank : isBlank (ascii ',') = false := by decide
      rw [renderMembers, written_append, written_cons_of_ascii (by decide), written_append,
        written_cons_of_ascii (by decide), List.append_assoc, List.cons_append, List.append_assoc,
        List.cons_append, members_name, skipBlanks_render exact.1, read]
      · simp [skipBlanks_cons notBlank, comma, readOthers, addMember, Utf8.decode?_encode]
      · exact List.cons_ne_nil _ _

end

theorem length_le_length_written (characters : List Char) :
    characters.length ≤ (written characters).length := by
  induction characters with
  | nil => exact Nat.zero_le _
  | cons char characters ih =>
      have present := char.utf8Size_pos
      simp [written_cons]
      omega

/-- A document is read as the value that it was written for. -/
theorem parse?_text {document : Json} (exact : document.isExact = true) :
    parse? (Utf8.encode document.text) = some document := by
  have bytes : Utf8.encode document.text = written (render document) :=
    Utf8.encode_ofList (render document)
  have enough : 2 * (render document).length ≤ 2 * (written (render document)).length + 2 := by
    have shorter := length_le_length_written (render document)
    omega
  have ends : EndsNumber [] := by
    intro byte isHead
    cases isHead
  have read := value_render document exact _ [] enough ends
  have blanks := skipBlanks_render exact []
  rw [List.append_nil] at read blanks
  rw [bytes, parse?, blanks, read]
  rfl

end StoreGate.Json
