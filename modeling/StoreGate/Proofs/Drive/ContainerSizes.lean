import Mathlib.Data.List.Induction
import StoreGate.Proofs.Drive.Flattening
/-!
# The size of a flattened folder

The positive sizes of the files below a folder are added up in 64 bits, and nothing bounds their
sum.  So a folder whose files are listed without a failure has a size just if the sum stays below
2⁶³.  Then the size is the sum itself, and no addition on the way has left these bounds; otherwise
the walk breaks off.
-/

namespace StoreGate

/-- A number that 64 bits hold together with its sign. -/
def FitsInBits (number : Int) : Prop := -bitLimit 63 ≤ number ∧ number < bitLimit 63

instance (number : Int) : Decidable (FitsInBits number) := inferInstanceAs (Decidable (_ ∧ _))

namespace Flatten

theorem knownSize_append (files more : List ItemFile) :
    knownSize (files ++ more) = knownSize files + knownSize more := by
  rw [knownSize, knownSize, knownSize, List.map_append, List.filter_append, List.sum_append]

theorem knownSize_singleton (file : ItemFile) :
    knownSize [file] = if 0 < file.size then file.size else 0 := by
  rw [knownSize_cons, knownSize, List.map_nil, List.filter_nil, List.sum_nil, Int.add_zero]

/-- Every positive size is added to the sum of those before it without overflow. -/
def AddsWithoutOverflow (files : List ItemFile) : Prop :=
  ∀ before file after, files = before ++ file :: after → 0 < file.size →
    FitsInBits (knownSize before + file.size)

theorem addsWithoutOverflow_iff (files : List ItemFile) :
    AddsWithoutOverflow files ↔ knownSize files < bitLimit 63 := by
  constructor
  · intro adds
    -- The last positive size completes the sum.
    induction files using List.reverseRecOn with
    | nil => decide
    | append_singleton files file ih =>
        have earlier : knownSize files < bitLimit 63 := by
          refine ih fun before other after same positive => ?_
          exact adds before other (after ++ [file]) (by simp [same]) positive
        rw [knownSize_append, knownSize_singleton]
        by_cases positive : 0 < file.size
        · rw [if_pos positive]
          exact (adds files file [] rfl positive).2
        · rw [if_neg positive, Int.add_zero]
          exact earlier
  · rintro small before file after rfl positive
    have others := knownSize_nonneg before
    have later := knownSize_nonneg after
    have least : (0 : Int) < bitLimit 63 := by decide
    rw [knownSize_append, knownSize_cons, if_pos positive] at small
    constructor <;> omega

section Outcomes

variable {store : Store} {rootId : String} {sights : List (Sight FolderEntry)}

theorem outcome_eq_overflow_iff :
    outcome store rootId sights = .error .overflow ↔
      (bitLimit 63 : Int) ≤ knownSize (filesMet store rootId sights) := by
  rw [← Int.not_lt, outcome]
  split
  · rename_i small
    cases sights.findSome? (Sight.failure? (tooDeep rootId)) <;> simp [small]
  · rename_i large
    simp [large]

theorem outcome_eq_ok {flat : Flattened} (gave : outcome store rootId sights = .ok flat) :
    flat.files = sights.filterMap (fileOf? store rootId) ∧ flat.size = knownSize flat.files ∧
      knownSize flat.files < bitLimit 63 := by
  have small : knownSize (filesMet store rootId sights) < bitLimit 63 := by
    rw [← Int.not_le, ← outcome_eq_overflow_iff, gave]
    exact nofun
  rw [outcome_of_small small] at gave
  cases first : sights.findSome? (Sight.failure? (tooDeep rootId)) with
  | some failure => rw [first] at gave; cases gave
  | none =>
      rw [first] at gave
      cases gave
      rw [filesMet, metBefore_of_findSome? first] at small
      exact ⟨rfl, rfl, small⟩

theorem exists_of_accepted
    (accepted : sights.findSome? (Sight.failure? (tooDeep rootId)) = none)
    (small : knownSize (filesMet store rootId sights) < bitLimit 63) :
    ∃ flat, outcome store rootId sights = .ok flat := by
  rw [outcome_of_small small, accepted]
  exact ⟨_, rfl⟩

end Outcomes

/-- The size of a flattened folder is the sum of the positive sizes of all its files, on every page
and at every depth.  It is not negative, and none of the additions that lead to it overflows.  A
walk breaks off just if an addition overflows, which is when the sizes that it meets before the
first failure add up to 2⁶³ or more, and then no size is shown; otherwise a tree without a failure
has a size. -/
theorem run_sums_unless_overflow {World : Type} (source : FolderSource World) (store : Store)
    (rootId : String) (caller : Caller World) (steady : World → Prop)
    (answers : String → Option String → Outcome FolderPage)
    (contents : String → Contents FolderEntry)
    (active : ∀ world, steady world → caller.isCancelled world = false)
    (answered : ∀ folderId token,
      (source folderId token).Gives steady (Action.resultOf (answers folderId token)))
    (finite : ∀ folderId, Contents.Follow (answers folderId) FolderPage.next? FolderPage.entries
      none (contents folderId)) :
    ∃ result : Except Halt Flattened,
      (∃ least, ∀ budget, least ≤ budget → ∀ world, steady world →
        ((run source store rootId caller budget).runOn world).1 = result) ∧
      (result = .error .overflow ↔
        ¬ AddsWithoutOverflow (filesMet store rootId (treeBelow contents rootId))) ∧
      (AddsWithoutOverflow (filesMet store rootId (treeBelow contents rootId)) ↔
        knownSize (filesMet store rootId (treeBelow contents rootId)) < bitLimit 63) ∧
      ((treeBelow contents rootId).findSome? (Sight.failure? (tooDeep rootId)) = none →
        AddsWithoutOverflow (filesMet store rootId (treeBelow contents rootId)) →
        ∃ flat, result = .ok flat) ∧
      ∀ flat, result = .ok flat →
        flat.files = (treeBelow contents rootId).filterMap (fileOf? store rootId) ∧
        flat.size = knownSize flat.files ∧ 0 ≤ flat.size ∧ AddsWithoutOverflow flat.files := by
  refine ⟨outcome store rootId (treeBelow contents rootId),
    ⟨pageRequests FolderEntry.folder? contents (folderLevels + 1) rootId,
      fun budget enough world isSteady => ?_⟩, ?_, addsWithoutOverflow_iff _,
    fun accepted adds => ?_, fun flat gave => ?_⟩
  · exact (gives_run store rootId active answered finite enough world isSteady).1
  · rw [outcome_eq_overflow_iff, addsWithoutOverflow_iff, Int.not_lt]
  · exact exists_of_accepted accepted ((addsWithoutOverflow_iff _).mp adds)
  · obtain ⟨areFiles, isSum, small⟩ := outcome_eq_ok gave
    refine ⟨areFiles, isSum, ?_, (addsWithoutOverflow_iff _).mpr small⟩
    rw [isSum]
    exact knownSize_nonneg flat.files

section Reels

/-- A drive with one file on the first page of the root and one in the folder on its second page. -/
def reelAnswers (first second : Int) (folderId : String) (token : Option String) :
    Outcome FolderPage :=
  if folderId = "root" then
    match token with
    | none => .ok ⟨[.file "reel" "Reel" first], some "2"⟩
    | some _ => .ok ⟨[.folder "box" "Box"], none⟩
  else .ok ⟨[.file "spare" "Spare" second, .file "note" "Note" (-1)], none⟩

def reelContents (first second : Int) (folderId : String) : Contents FolderEntry :=
  if folderId = "root" then ⟨[[.file "reel" "Reel" first], [.folder "box" "Box"]], none⟩
  else ⟨[[.file "spare" "Spare" second, .file "note" "Note" (-1)]], none⟩

theorem follow_reelContents (first second : Int) (folderId : String) :
    Contents.Follow (reelAnswers first second folderId) FolderPage.next? FolderPage.entries none
      (reelContents first second folderId) := by
  by_cases isRoot : folderId = "root"
  · subst isRoot
    let page : FolderPage := ⟨[.file "reel" "Reel" first], some "2"⟩
    let last : FolderPage := ⟨[.folder "box" "Box"], none⟩
    exact .more page rfl rfl (.last last rfl rfl)
  · rw [reelContents, if_neg isRoot]
    let only : FolderPage := ⟨[.file "spare" "Spare" second, .file "note" "Note" (-1)], none⟩
    exact .last only (by rw [reelAnswers, if_neg isRoot]) rfl

/-- Flattening the drive with two files. -/
def reelRun (first second : Int) (budget : Nat) : Except Halt Flattened :=
  ((run (fun folderId token => Action.ofOutcome (reelAnswers first second folderId token)) .pikPak
    "root" ⟨none, none, fun _ => false⟩ budget).runOn ()).1

/-- The largest size that is shown, and the smallest one that is not. -/
theorem run_sums_unless_overflow_largest :
    (∀ folderId, Contents.Follow (reelAnswers 4611686018427387904 4611686018427387903 folderId)
      FolderPage.next? FolderPage.entries none
      (reelContents 4611686018427387904 4611686018427387903 folderId)) ∧
    (∃ least, ∀ budget, least ≤ budget → ∃ flat,
      reelRun 4611686018427387904 4611686018427387903 budget = .ok flat ∧
      flat.size = 9223372036854775807) ∧
    ∃ least, ∀ budget, least ≤ budget →
      reelRun 4611686018427387904 4611686018427387904 budget = .error .overflow := by
  have flattens := fun second => run_sums_unless_overflow
    (fun folderId token => Action.ofOutcome (reelAnswers 4611686018427387904 second folderId token))
    .pikPak "root" ⟨none, none, fun _ => false⟩ (fun _ : Unit => True)
    (reelAnswers 4611686018427387904 second) (reelContents 4611686018427387904 second)
    (fun _ _ => rfl) (fun folderId token => Action.gives_ofOutcome _) (follow_reelContents _ _)
  refine ⟨follow_reelContents _ _, ?_, ?_⟩
  · obtain ⟨result, ⟨least, gives⟩, _, adds, accepts, shows⟩ := flattens 4611686018427387903
    obtain ⟨flat, rfl⟩ := accepts (by decide) (adds.mpr (by decide))
    obtain ⟨areFiles, isSum, _⟩ := shows flat rfl
    refine ⟨least, fun budget enough => ⟨flat, gives budget enough () trivial, ?_⟩⟩
    rw [isSum, areFiles]
    decide
  · obtain ⟨result, ⟨least, gives⟩, overflows, adds, _⟩ := flattens 4611686018427387904
    refine ⟨least, fun budget enough => (gives budget enough () trivial).trans ?_⟩
    rw [overflows, adds]
    decide

/-- Two files of the largest size that 64 bits hold lie below a folder whose tree holds no failure,
and flattening it breaks off. -/
theorem reels_overflow : FitsInBits 9223372036854775807 ∧
    (treeBelow (reelContents 9223372036854775807 9223372036854775807) "root").findSome?
      (Sight.failure? (tooDeep "root")) = none ∧
    knownSize (filesMet .pikPak "root"
      (treeBelow (reelContents 9223372036854775807 9223372036854775807) "root")) =
        18446744073709551614 ∧
    reelRun 9223372036854775807 9223372036854775807 2 = .error .overflow :=
  ⟨by decide, by decide, by decide, rfl⟩

end Reels

end Flatten

end StoreGate
