import StoreGate.Proxy.Token
import StoreGate.Proofs.TextMaps
import StoreGate.Proofs.TextParts
/-!
# A link and its headers are found again from their lines

A link with headers stands on lines of its own if no line feed is in the way and no name holds the
mark at which names end.  Whatever is read from lines is of this form, and everything of this form
is read from its own lines.  A request that passes the check is of this form as well: no line break
stands in its link, in a name or in a value, and no colon in a name.
-/

namespace StoreGate

namespace Text

/-- A text is divided at the first occurrence of a mark of two different characters. -/
theorem splitAtMark?_pair_eq_some_iff {first second : Char} (differ : first ≠ second)
    {text before after : List Char} :
    splitAtMark? [first, second] text = some (before, after) ↔
      text = before ++ [first, second] ++ after ∧ ¬ [first, second] <:+: before := by
  induction text generalizing before with
  | nil =>
      have absent : after? [first, second] [] = none := rfl
      simp [splitAtMark?, absent]
  | cons char rest ih =>
      rw [splitAtMark?]
      cases begun : after? [first, second] (char :: rest) with
      | some found =>
          have here := after?_eq_some_iff.mp begun
          constructor
          · intro same
            cases same
            exact ⟨here, by simp⟩
          · rintro ⟨split, absent⟩
            rw [here] at split
            cases before with
            | nil =>
                obtain rfl := List.append_cancel_left split
                rfl
            | cons head tail =>
                simp only [List.cons_append, List.nil_append, List.cons.injEq] at split
                obtain ⟨rfl, behind⟩ := split
                cases tail with
                | nil => exact absurd (List.cons.inj behind).1.symm differ
                | cons next tail =>
                    simp only [List.cons_append, List.cons.injEq] at behind
                    obtain ⟨rfl, _⟩ := behind
                    exact absurd (List.prefix_append [first, second] tail).isInfix absent
      | none =>
          -- The mark does not begin here, so it begins in the rest on both sides.
          rw [Option.map_eq_some_iff]
          constructor
          · rintro ⟨⟨tail, after⟩, found, same⟩
            cases same
            obtain ⟨rfl, absent⟩ := ih.mp found
            refine ⟨rfl, fun inside => ?_⟩
            rcases List.infix_cons_iff.mp inside with ⟨more, begins⟩ | later
            · have whole : char :: (tail ++ [first, second] ++ after) =
                  [first, second] ++ (more ++ [first, second] ++ after) := by
                rw [← List.cons_append, ← List.cons_append, ← begins]
                simp
              rw [after?_eq_some_iff.mpr whole] at begun
              cases begun
            · exact absent later
          · rintro ⟨split, absent⟩
            cases before with
            | nil =>
                rw [List.nil_append] at split
                rw [after?_eq_some_iff.mpr split] at begun
                cases begun
            | cons head tail =>
                obtain ⟨rfl, rfl⟩ := List.cons.inj split
                exact ⟨(tail, after), ih.mpr ⟨rfl, fun inside =>
                  absent (inside.trans (List.suffix_cons char tail).isInfix)⟩, rfl⟩

end Text

namespace LinkRequest

/-- What a request has that passes the check. -/
structure IsValid (request : LinkRequest) : Prop where
  link : request.link ≠ ""
  linkOnLine : ∀ char ∈ request.link.toList, isLineBreak char = false
  user : request.user ≠ ""
  userUndivided : ':' ∉ request.user.toList
  headers : ∀ header ∈ request.headers.entries, isValidHeader header = true

theorem validate_eq_ok_iff {request : LinkRequest} :
    request.validate = .ok () ↔ request.IsValid := by
  constructor
  · intro passed
    unfold validate at passed
    split at passed
    · cases passed
    · rename_i link
      split at passed
      · cases passed
      · rename_i user
        split at passed
        · cases passed
        · rename_i headers
          simp only [Bool.or_eq_true, not_or, List.any_eq_true, not_exists, not_and,
            Bool.not_eq_true, String.isEmpty_eq_false_iff, List.contains_iff_mem] at link user
          refine ⟨link.1, link.2, user.1, by simpa using user.2, fun header member => ?_⟩
          have isValid := List.find?_eq_none.mp headers header member
          simpa using isValid
  · rintro ⟨link, linkOnLine, user, userUndivided, headers⟩
    have noneFaulty : request.headers.entries.find? (fun header => !isValidHeader header) = none :=
      List.find?_eq_none.mpr fun header member => by simp [headers header member]
    have linkPasses : (request.link.isEmpty || request.link.toList.any isLineBreak) = false := by
      simpa [link] using linkOnLine
    have userPasses : (request.user.isEmpty || request.user.toList.contains ':') = false := by
      simp [user, userUndivided]
    simp only [validate, linkPasses, userPasses, noneFaulty]
    rfl

structure IsValidName (name : String) : Prop where
  present : name ≠ ""
  undivided : ':' ∉ name.toList
  onLine : ∀ char ∈ name.toList, isLineBreak char = false

theorem isValidHeader_iff {header : String × String} :
    isValidHeader header = true ↔ IsValidName header.1 ∧
      ∀ char ∈ header.2.toList, isLineBreak char = false := by
  constructor
  · intro valid
    simp only [isValidHeader, Bool.and_eq_true, Bool.not_eq_true', List.any_eq_false,
      Bool.or_eq_true, decide_eq_true_eq, not_or, Bool.not_eq_true,
      String.isEmpty_eq_false_iff] at valid
    obtain ⟨⟨present, name⟩, value⟩ := valid
    exact ⟨⟨present, fun member => (name ':' member).1 rfl,
      fun char member => (name char member).2⟩, value⟩
  · rintro ⟨⟨present, undivided, onLine⟩, value⟩
    simp only [isValidHeader, Bool.and_eq_true, Bool.not_eq_true', List.any_eq_false,
      Bool.or_eq_true, decide_eq_true_eq, not_or, Bool.not_eq_true,
      String.isEmpty_eq_false_iff]
    refine ⟨⟨present, fun char member => ⟨?_, onLine char member⟩⟩, value⟩
    rintro rfl
    exact undivided member

end LinkRequest

namespace ProxyToken

/-- The line of a header. -/
def headerLine (header : String × String) : List Char :=
  header.1.toList ++ headerMark ++ header.2.toList

theorem newLine_not_mem {text : List Char} (onLine : ∀ char ∈ text, isLineBreak char = false) :
    '\n' ∉ text := by
  intro member
  exact absurd (onLine '\n' member) (by decide)

/-- Whether a link and its headers can stand on lines of their own: some text of the link is there,
nothing has a line feed, and no name has the mark that ends names. -/
structure StandOnLines (link : String) (headers : TextMap) : Prop where
  present : link ≠ ""
  linkOnLine : '\n' ∉ link.toList
  headersOnLines : ∀ header ∈ headers.entries,
    '\n' ∉ header.1.toList ∧ ¬ headerMark <:+: header.1.toList ∧ '\n' ∉ header.2.toList

theorem standOnLines_of_isValid {request : LinkRequest} (valid : request.IsValid) :
    StandOnLines request.link request.headers := by
  refine ⟨valid.link, newLine_not_mem valid.linkOnLine, fun header member => ?_⟩
  obtain ⟨name, value⟩ := LinkRequest.isValidHeader_iff.mp (valid.headers header member)
  refine ⟨newLine_not_mem name.onLine, fun inside => ?_, newLine_not_mem value⟩
  exact name.undivided (inside.subset List.mem_cons_self)

theorem divided_headerLine_iff {line : List Char} (header : String × String) :
    Text.splitAtMark? headerMark line = some (header.1.toList, header.2.toList) ↔
      line = headerLine header ∧ ¬ headerMark <:+: header.1.toList :=
  Text.splitAtMark?_pair_eq_some_iff (by decide)

section Lines

variable {link : String} {headers : TextMap}

theorem newLine_not_mem_headerLine (stands : StandOnLines link headers) {header : String × String}
    (member : header ∈ headers.entries) : '\n' ∉ headerLine header := by
  obtain ⟨name, _, value⟩ := stands.headersOnLines header member
  have mark : '\n' ∉ headerMark := by decide
  simp only [headerLine, List.mem_append, not_or]
  exact ⟨⟨name, mark⟩, value⟩

private theorem fields_headerLines {headers : List (String × String)}
    (onLines : ∀ header ∈ headers, '\n' ∉ headerLine header) (before : List Char)
    (onLine : '\n' ∉ before) :
    Text.fields '\n' (before ++ headers.flatMap fun header => '\n' :: headerLine header) =
      before :: headers.map headerLine := by
  induction headers generalizing before with
  | nil => simpa using Text.fields_of_not_mem onLine
  | cons header headers ih =>
      have here := onLines header List.mem_cons_self
      have others := ih (fun other member => onLines other (List.mem_cons_of_mem _ member)) _ here
      rw [List.flatMap_cons, List.cons_append, Text.fields_append onLine, others, List.map_cons]

theorem fields_linkLines (stands : StandOnLines link headers) :
    Text.fields '\n' (linkLines link headers) = link.toList :: headers.entries.map headerLine :=
  fields_headerLines (fun _ member => newLine_not_mem_headerLine stands member) link.toList
    stands.linkOnLine

/-- Headers are read from their lines exactly if each line is divided behind its name. -/
theorem readHeaders_eq_some_iff {lines : List (List Char)} {headers : List (String × String)} :
    readHeaders lines = some headers ↔
      lines = headers.map headerLine ∧ ∀ header ∈ headers, ¬ headerMark <:+: header.1.toList := by
  induction lines generalizing headers with
  | nil =>
      cases headers <;> simp [readHeaders]
  | cons line lines ih =>
      constructor
      · intro read
        obtain ⟨⟨name, value⟩, divided, read⟩ := Option.bind_eq_some_iff.mp read
        obtain ⟨others, readOthers, returned⟩ := Option.bind_eq_some_iff.mp read
        cases returned
        obtain ⟨rfl, undivided⟩ := ih.mp readOthers
        obtain ⟨rfl, absent⟩ := (divided_headerLine_iff
          (String.ofList name, String.ofList value)).mp (by simpa using divided)
        exact ⟨rfl, List.forall_mem_cons.mpr ⟨absent, undivided⟩⟩
      · rintro ⟨areLines, undivided⟩
        cases headers with
        | nil => cases areLines
        | cons header headers =>
            obtain ⟨rfl, rfl⟩ := List.cons.inj areLines
            obtain ⟨absent, others⟩ := List.forall_mem_cons.mp undivided
            rw [readHeaders, (divided_headerLine_iff header).mpr ⟨rfl, absent⟩, ih.mpr ⟨rfl, others⟩]
            simp

theorem readHeaders_headerLines (stands : StandOnLines link headers) :
    readHeaders (headers.entries.map headerLine) = some headers.entries :=
  readHeaders_eq_some_iff.mpr ⟨rfl, fun header member => (stands.headersOnLines header member).2.1⟩

/-- Whatever is read from lines can stand on them. -/
theorem standOnLines_of_read {text first : List Char} {rest : List (List Char)}
    {entries : List (String × String)} (found : Text.fields '\n' text = first :: rest)
    (read : readHeaders rest = some entries) (hasLink : first ≠ []) :
    StandOnLines (String.ofList first) (TextMap.ofList entries) := by
  have onLine : ∀ line ∈ first :: rest, '\n' ∉ line := fun line member =>
    Text.not_mem_of_mem_fields (found ▸ member)
  obtain ⟨rfl, undivided⟩ := readHeaders_eq_some_iff.mp read
  refine ⟨by simpa using hasLink, ?_, fun header member => ?_⟩
  · rw [String.toList_ofList]
    exact onLine first List.mem_cons_self
  · have isEntry := TextMap.mem_of_mem_ofList member
    have whole := onLine _ (List.mem_cons_of_mem first (List.mem_map_of_mem isEntry))
    simp only [headerLine, List.mem_append, not_or] at whole
    exact ⟨whole.1.1, undivided header isEntry, whole.2⟩

end Lines

end ProxyToken

end StoreGate
