import StoreGate.Proofs.Seedr.ServiceRequests
/-!
# Identifiers that reach the service

Seedr numbers its folders and files.  An identifier that spells a number of 64 bits is what the
service is asked for, and any other one is refused before the service is asked for anything.  A plus
sign in front of the digits belongs to the spelling.
-/

namespace StoreGate.Seedr

section Spellings

/-- Whether a text consists of digits, of which there is at least one, and writes a number. -/
structure Writes (text : List Char) (number : Nat) : Prop where
  nonempty : text ≠ []
  digits : ∀ char ∈ text, char.isDigit = true
  value : Nat.ofDigitChars 10 text 0 = number

/-- A number of 64 bits in decimal digits and nothing else. -/
def IsDecimal (id : String) (number : Nat) : Prop :=
  Writes id.toList number ∧ number < 2 ^ 64

/-- A number of 64 bits in decimal digits, with a plus sign in front of them or without. -/
def IsNumeral (id : String) (number : Nat) : Prop :=
  ∃ digits, (id = digits ∨ id = "+" ++ digits) ∧ IsDecimal digits number

theorem digits?_eq_some_iff {text : List Char} {number : Nat} :
    Decimal.digits? text = some number ↔ Writes text number := by
  constructor
  · intro read
    obtain ⟨nonempty, digits⟩ := digits?_eq_some read
    refine ⟨nonempty, digits, ?_⟩
    rw [Decimal.digits?, if_neg (by simpa using nonempty), if_pos (List.all_eq_true.mpr digits)]
      at read
    exact Option.some.inj read
  · rintro ⟨nonempty, digits, rfl⟩
    rw [Decimal.digits?, if_neg (by simpa using nonempty), if_pos (List.all_eq_true.mpr digits)]

theorem isNumeral_iff {id : String} {number : Nat} :
    IsNumeral id number ↔ number < 2 ^ 64 ∧
      (Writes id.toList number ∨ ∃ digits, id.toList = '+' :: digits ∧ Writes digits number) := by
  constructor
  · rintro ⟨digits, rfl | rfl, written, small⟩
    · exact ⟨small, Or.inl written⟩
    · exact ⟨small, Or.inr ⟨digits.toList, by simp, written⟩⟩
  · rintro ⟨small, written | ⟨digits, signed, written⟩⟩
    · exact ⟨id, Or.inl rfl, written, small⟩
    · refine ⟨String.ofList digits, Or.inr ?_, by rwa [String.toList_ofList], small⟩
      apply String.toList_inj.mp
      simpa using signed

theorem readId?_eq_some_iff {id : String} {number : Nat} :
    readId? id = some number ↔ IsNumeral id number := by
  have limited : ∀ text : List Char,
      (Decimal.digits? text >>= fun value => if value < bitLimit 64 then some value else none) =
        some number ↔ number < 2 ^ 64 ∧ Writes text number := by
    intro text
    rw [Option.bind_eq_bind, Option.bind_eq_some_iff]
    constructor
    · rintro ⟨value, read, kept⟩
      split at kept
      · rename_i small
        cases kept
        exact ⟨small, digits?_eq_some_iff.mp read⟩
      · cases kept
    · rintro ⟨small, written⟩
      exact ⟨number, digits?_eq_some_iff.mpr written, if_pos small⟩
  rw [isNumeral_iff, readId?, Decimal.natural?]
  split
  · rename_i digits signed
    rw [limited]
    refine and_congr_right fun _ => ⟨fun written => Or.inr ⟨digits, signed, written⟩, ?_⟩
    rintro (written | ⟨others, same, written⟩)
    · -- A plus sign is no digit.
      have isDigit := written.digits '+' (signed ▸ List.mem_cons_self)
      exact absurd isDigit (by decide)
    · rw [signed] at same
      cases same
      exact written
  · rename_i unsigned
    rw [limited]
    refine and_congr_right fun _ => ⟨Or.inl, ?_⟩
    rintro (written | ⟨digits, signed, _⟩)
    · exact written
    · exact absurd signed (unsigned digits)

theorem readId?_eq_none_iff {id : String} :
    readId? id = none ↔ ¬ ∃ number, IsNumeral id number := by
  simp only [← readId?_eq_some_iff, Option.eq_none_iff_forall_ne_some, not_exists]

end Spellings

section Requests

variable {World α : Type}

/-- Whether a run that begins with no requests asks the service for the number that an identifier
spells, if it spells one and there is a credential, and asks for nothing otherwise.  An identifier
that spells no number is refused at once. -/
structure AsksBySpelling (Spells : String → Nat → Prop) (credential : Outcome String)
    (request : String → Nat → Request) (refusal : String → Failure) (id : String)
    (action : Action (Recorded World Request) α) : Prop where
  reaches : ∀ world, ((action.runOn (world, [])).2.2 ≠ [] ↔
    (∃ number, Spells id number) ∧ ∃ key, credential = .ok key)
  first : ∀ world number key, Spells id number → credential = .ok key →
    IsFirst (request key number) (action.runOn (world, [])).2
  refused : ∀ world, (¬ ∃ number, Spells id number) →
    action.runOn (world, []) = (.error (.failure (refusal id)), (world, []))

/-- What an action asks for is decided by the number that it reads and the credential. -/
theorem asksBySpelling_of_reading {credential : Outcome String}
    {request : String → Nat → Request} {refusal : String → Failure} {id : String}
    {next : String → Nat → Action (Recorded World Request) α}
    (asks : ∀ key number world,
      IsFirst (request key number) ((next key number).runOn (world, [])).2) :
    AsksBySpelling IsNumeral credential request refusal id
      (match readId? id with
        | none => Action.fail (refusal id)
        | some number => Action.ofOutcome credential >>= fun key => next key number) := by
  cases read : readId? id with
  | none =>
      have none := readId?_eq_none_iff.mp read
      refine ⟨fun world => ?_, fun world number key spelled _ => ?_, fun world _ => rfl⟩
      · exact iff_of_false (fun asked => asked rfl) fun both => none both.1
      · exact absurd ⟨number, spelled⟩ none
  | some number =>
      have spelled := readId?_eq_some_iff.mp read
      dsimp only
      refine ⟨fun world => ?_, fun world other key otherSpelled known => ?_, fun world none => ?_⟩
      · rw [Action.runOn_bind, Action.runOn_ofOutcome]
        cases credential with
        | error failure => exact iff_of_false (fun asked => asked rfl) (by simp)
        | ok key =>
            refine iff_of_true (fun empty => ?_) ⟨⟨number, spelled⟩, key, rfl⟩
            have isFirst := asks key number world
            rw [IsFirst] at isFirst
            have nothing : ((next key number).runOn (world, [])).2.2 = [] := empty
            rw [nothing] at isFirst
            cases isFirst
      · have same := readId?_eq_some_iff.mpr otherSpelled
        rw [read] at same
        cases same
        rw [known, Action.runOn_bind, Action.runOn_ofOutcome]
        exact asks key number world
      · exact absurd ⟨number, spelled⟩ none

/-- Whether items and files are asked for by the numbers that their identifiers spell. -/
def Drive.AsksBy (drive : Drive World) (Spells : String → Nat → Prop) : Prop :=
  ∀ caller : Caller (Recorded World Request),
    (∀ id, AsksBySpelling Spells (caller.apiKeyOr drive.apiKey) .folder
      (fun id => .invalidInput ("Invalid seedr folder id: " ++ id)) id
      (drive.recorded.item caller id)) ∧
    ∀ link address, LockedLink.decode .seedr link = .ok address →
      AsksBySpelling Spells (caller.apiKeyOr drive.apiKey) .file
        (fun id => .invalidLink ("Invalid seedr file id: " ++ id)) address.fileId
        (drive.recorded.resolve caller link)

/-- An item and a file are asked for exactly if the identifier is a number of 64 bits in digits,
with or without a plus sign, and there is a credential; any other identifier is refused without a
request. -/
theorem asks_by_numerals (drive : Drive World) : drive.AsksBy IsNumeral := by
  intro caller
  refine ⟨fun id => ?_, fun link address decoded => ?_⟩
  · refine asksBySpelling_of_reading fun key number world => ?_
    have fetched : ∀ folderId, (drive.recorded.api.folder key folderId).Keeps
        (IsFirst (.folder key number)) := fun folderId => keeps_isFirst _ _ _
    have asked : IsFirst (.folder key number)
        ((drive.recorded.api.folder key number).runOn (world, [])).2 := rfl
    refine Action.runOn_bind_keeps asked fun contents => ?_
    refine (keeps_withPrefetched ?_ number contents).bind fun flat => Action.keeps_pure _
    exact Flatten.keeps_run (Drive.keeps_folders fetched) .seedr id _ _
  · rw [Drive.resolve, decoded]
    refine asksBySpelling_of_reading fun key number world => ?_
    have asked : IsFirst (.file key number)
        ((drive.recorded.api.file key number).runOn (world, [])).2 := rfl
    refine Action.runOn_bind_keeps asked fun download => ?_
    split
    · exact (Action.keeps_throw _).bind fun _ => Action.keeps_pure _
    · exact Action.keeps_pure _

/-- A service that has every folder and every file. -/
def amply : Drive Unit := Drive.ofTable fun id => .ok ⟨some id, "Films", "", [], []⟩

/-- With a plus sign in front the service is asked for the same folder as without. -/
theorem asks_by_numerals_plus :
    IsNumeral "+10" 10 ∧ ((amply.recorded.item guest "+10").runOn ((), [])).2.2 ≠ [] ∧
    IsFirst (.folder "key" 10) ((amply.recorded.item guest "+10").runOn ((), [])).2 ∧
    (amply.recorded.item guest "ten").runOn ((), []) =
      (.error (.failure (.invalidInput "Invalid seedr folder id: ten")), ((), [])) := by
  have plus : IsNumeral "+10" 10 := readId?_eq_some_iff.mp (by decide)
  have word : ¬ ∃ number, IsNumeral "ten" number := readId?_eq_none_iff.mp (by decide)
  obtain ⟨items, _⟩ := asks_by_numerals amply guest
  exact ⟨plus, ((items "+10").reaches ()).mpr ⟨⟨10, plus⟩, "key", rfl⟩,
    (items "+10").first () 10 "key" plus rfl, (items "ten").refused () word⟩

/-- The service is asked for identifiers that are more than digits, both for an item and for the
file of a link. -/
theorem asksBy_isDecimal_fails : ¬ amply.AsksBy IsDecimal ∧
    ((amply.recorded.item guest "+10").runOn ((), [])).2.2 = [.folder "key" 10] ∧
    ((amply.recorded.resolve guest (LockedLink.encode .seedr ⟨"10", "+10"⟩)).runOn ((), [])).2.2 =
      [.file "key" 10] ∧ ¬ ∃ number, IsDecimal "+10" number := by
  have more : ¬ ∃ number, IsDecimal "+10" number := by
    rintro ⟨number, written, _⟩
    exact absurd (written.digits '+' (by decide)) (by decide)
  have asked : ((amply.recorded.item guest "+10").runOn ((), [])).2.2 = [.folder "key" 10] := by
    decide
  refine ⟨fun lawful => ?_, asked, by decide +kernel, more⟩
  have reaches := ((lawful guest).1 "+10").reaches ()
  rw [asked] at reaches
  exact more (reaches.mp (List.cons_ne_nil _ _)).1

end Requests

end StoreGate.Seedr
