import Mathlib.Data.List.TakeWhile
import StoreGate.Proofs.Drive.WalkMoves
/-!
# Flattening is the depth-first list of files

Flattening a folder of any drive comes to an end, also where folders hold each other.  It gives one
file for each file of the unfolded tree, in depth-first order, with the path that leads there and
the sum of the known sizes, unless it meets a failure of the drive or a folder below the deepest
level first, or the sum of the sizes that it meets before that overflows.
-/

namespace StoreGate

/-- The identifier and the name of an entry that is a folder. -/
def FolderEntry.folder? : FolderEntry → Option (String × String)
  | .folder id name => some (id, name)
  | .file _ _ _ => none

namespace Flatten

variable {World : Type} {steady : World → Prop} {source : FolderSource World}
  {answers : String → Option String → Outcome FolderPage}
  {contents : String → Contents FolderEntry} {caller : Caller World} {budget : Nat}

/-- What flattening shows of an entry, under the names of the folders on the way. -/
def shownFile (store : Store) (rootId : String) (place : List String) :
    FolderEntry → List ItemFile
  | .folder _ _ => []
  | .file id name size => [fileAt store rootId (pathOf place) id name size]

/-- What lies below the root of an item: the root is at level 0, and the folders of the deepest
level are still looked into. -/
def treeBelow (contents : String → Contents FolderEntry) (rootId : String) :
    List (Sight FolderEntry) :=
  folderTree FolderEntry.folder? contents (folderLevels + 1) [] rootId

/-- The file of an item that a file of the tree is. -/
def fileOf? (store : Store) (rootId : String) : Sight FolderEntry → Option ItemFile
  | .entry place (.file id name size) =>
    some { index := -1, name, path := "/" ++ "/".intercalate (place ++ [name]), size
           link := LockedLink.encode store ⟨rootId, id⟩, source := store.code }
  | _ => none

theorem shown_eq_filterMap (store : Store) (rootId : String) (sights : List (Sight FolderEntry)) :
    sights.flatMap (Sight.shown (shownFile store rootId)) =
      sights.filterMap (fileOf? store rootId) := by
  rw [List.filterMap_eq_flatMap_toList]
  congr 1
  funext sight
  cases sight with
  | entry place entry =>
      cases entry with
      | folder id name => rfl
      | file id name size =>
          simp only [Sight.shown, shownFile, fileAt, fileOf?, ← pathOf_append, pathOf_eq]
          rfl
  | fault place failure => rfl
  | tooDeep place => rfl

/-- What a walk meets before the first failure. -/
def metBefore (rootId : String) (sights : List (Sight FolderEntry)) : List (Sight FolderEntry) :=
  sights.takeWhile fun sight => (sight.failure? (tooDeep rootId)).isNone

theorem metBefore_of_findSome? {rootId : String} {sights : List (Sight FolderEntry)}
    (none : sights.findSome? (Sight.failure? (tooDeep rootId)) = none) :
    metBefore rootId sights = sights := by
  refine List.takeWhile_eq_self_iff.mpr fun sight member => ?_
  rw [List.findSome?_eq_none_iff.mp none sight member, Option.isNone_none]

/-- The files whose sizes a walk adds up. -/
def filesMet (store : Store) (rootId : String) (sights : List (Sight FolderEntry)) :
    List ItemFile :=
  (metBefore rootId sights).filterMap (fileOf? store rootId)

/-- What flattening gives for what a walk meets: the files with the sum of their known sizes, or the
first failure, unless the sizes of the files before it overflow. -/
def outcome (store : Store) (rootId : String) (sights : List (Sight FolderEntry)) :
    Except Halt Flattened :=
  let files := filesMet store rootId sights
  if knownSize files < bitLimit 63 then
    match sights.findSome? (Sight.failure? (tooDeep rootId)) with
    | some failure => .error (.failure failure)
    | none => .ok ⟨files, knownSize files⟩
  else .error .overflow

section Moves

/-- The move that a walk makes where it meets something, apart from asking for pages. -/
def moveAt? (store : Store) (rootId : String) : Sight FolderEntry → Option Move
  | .entry place (.file id name size) =>
    some (.take (fileAt store rootId (pathOf place) id name size))
  | .entry _ (.folder _ _) => none
  | .fault _ failure => some (.stop (.failure failure))
  | .tooDeep _ => some (.stop (.failure (tooDeep rootId)))

/-- The moves of a walk without those that ask for pages. -/
def bare (moves : List Move) : List Move :=
  moves.filter fun move => move.request?.isNone

theorem bare_append (moves more : List Move) : bare (moves ++ more) = bare moves ++ bare more :=
  List.filter_append ..

theorem bare_flatMap {Entry : Type} {visit : Entry → List Move}
    {meets : Entry → List (Sight FolderEntry)} {store : Store} {rootId : String}
    {entries : List Entry} (visited : ∀ entry ∈ entries,
      bare (visit entry) = (meets entry).filterMap (moveAt? store rootId)) :
    bare (entries.flatMap visit) = (entries.flatMap meets).filterMap (moveAt? store rootId) := by
  rw [bare, List.filter_flatMap, List.filterMap_flatMap]
  exact List.flatMap_congr visited

/-- The pages of a folder lead to the moves for what is met on them. -/
theorem bare_pageMoves {answer : Option String → Outcome FolderPage}
    {visit : FolderEntry → List Move} {meets : FolderEntry → List (Sight FolderEntry)}
    {contents : Contents FolderEntry} {token : Option String} (store : Store) (rootId : String)
    (place : List String) (folderId : String)
    (follow : Contents.Follow answer FolderPage.next? FolderPage.entries token contents)
    (visited : ∀ entry ∈ contents.entries,
      bare (visit entry) = (meets entry).filterMap (moveAt? store rootId))
    {budget : Nat} (enough : contents.requests ≤ budget) :
    bare (pageMoves answer (fun page => page.entries.flatMap visit) folderId budget token) =
      (contents.entries.flatMap meets ++ contents.fault.toList.map (Sight.fault place)).filterMap
        (moveAt? store rootId) := by
  -- The budget shrinks by one with each request, so it covers the pages that are left.
  induction follow generalizing budget with
  | fault failed =>
      cases budget with
      | zero => cases enough
      | succ budget =>
          rw [pageMoves, failed]
          rfl
  | last page found ends =>
      cases budget with
      | zero => cases enough
      | succ budget =>
          have all : (⟨[page.entries], none⟩ : Contents FolderEntry).entries = page.entries :=
            List.flatten_singleton
          rw [all] at visited ⊢
          rw [pageMoves, found]
          dsimp only
          rw [ends, List.append_nil, Option.toList_none, List.map_nil, List.append_nil]
          exact bare_flatMap visited
  | @more token page further pages fault found named rest ih =>
      cases budget with
      | zero => exact absurd enough (by simp [Contents.requests])
      | succ budget =>
          have all : (⟨page.entries :: pages, fault⟩ : Contents FolderEntry).entries =
              page.entries ++ (⟨pages, fault⟩ : Contents FolderEntry).entries := List.flatten_cons
          rw [all] at visited ⊢
          have fewer : (⟨pages, fault⟩ : Contents FolderEntry).requests ≤ budget := by
            simp only [Contents.requests, List.length_cons] at enough ⊢
            omega
          have here := bare_flatMap fun entry member =>
            visited entry (List.mem_append_left _ member)
          have there := ih (fun entry member => visited entry (List.mem_append_right _ member)) fewer
          rw [pageMoves, found]
          dsimp only
          rw [named, List.flatMap_append, List.append_assoc, List.filterMap_append, ← here, ← there]
          exact bare_append _ _

/-- A walk with pages enough makes the moves for what lies below its folder. -/
theorem bare_moves {answers : String → Option String → Outcome FolderPage}
    {contents : String → Contents FolderEntry} (store : Store) (rootId : String)
    (finite : ∀ folderId, Contents.Follow (answers folderId) FolderPage.next? FolderPage.entries
      none (contents folderId))
    {budget levels : Nat} (place : List String) (folderId : String)
    (enough : pageRequests FolderEntry.folder? contents levels folderId ≤ budget) :
    bare (moves answers store rootId budget levels place folderId) =
      (folderTree FolderEntry.folder? contents levels place folderId).filterMap
        (moveAt? store rootId) := by
  induction levels generalizing place folderId with
  | zero => rfl
  | succ levels ih =>
      refine bare_pageMoves store rootId place folderId (finite folderId)
        (fun entry member => ?_) (Nat.le_trans (Nat.le_add_right _ _) enough)
      cases entry with
      | file id name size => rfl
      | folder id name => exact ih _ _ (Nat.le_trans (pageRequests_le member rfl) enough)

/-- Asking for pages takes no files and stops nothing. -/
theorem resultFrom_bare (total : Int) (moves : List Move) :
    resultFrom total (bare moves) = resultFrom total moves := by
  have sameHalt : (bare moves).findSome? Move.halt? = moves.findSome? Move.halt? := by
    induction moves with
    | nil => rfl
    | cons first rest ih =>
        cases first with
        | ask request => exact ih
        | take file => exact ih
        | stop halt => rfl
  have sameTaken : taken (bare moves) = taken moves := by
    clear sameHalt
    induction moves with
    | nil => rfl
    | cons first rest ih =>
        cases first with
        | ask request => exact ih
        | take file => exact congrArg (file :: ·) ih
        | stop halt => rfl
  rw [resultFrom, resultFrom, sameHalt, sameTaken]

theorem fileOf?_file (store : Store) (rootId : String) (place : List String) (id name : String)
    (size : Int) :
    fileOf? store rootId (.entry place (.file id name size)) =
      some (fileAt store rootId (pathOf place) id name size) := by
  rw [fileOf?, fileAt, ← pathOf_append, pathOf_eq]

theorem resultFrom_sights (store : Store) (rootId : String) (sights : List (Sight FolderEntry)) :
    resultFrom 0 (sights.filterMap (moveAt? store rootId)) = outcome store rootId sights := by
  have sameHalt : (sights.filterMap (moveAt? store rootId)).findSome? Move.halt? =
      (sights.findSome? (Sight.failure? (tooDeep rootId))).map Halt.failure := by
    induction sights with
    | nil => rfl
    | cons first rest ih =>
        cases first with
        | entry place entry => cases entry <;> exact ih
        | fault place failure => rfl
        | tooDeep place => rfl
  have sameTaken : taken (sights.filterMap (moveAt? store rootId)) =
      filesMet store rootId sights := by
    clear sameHalt
    unfold filesMet
    induction sights with
    | nil => rfl
    | cons first rest ih =>
        cases first with
        | entry place entry =>
            cases entry with
            | folder id name => exact ih
            | file id name size =>
                have isFile := fileOf?_file store rootId place id name size
                rw [metBefore, List.takeWhile_cons_of_pos rfl, List.filterMap_cons_some isFile]
                exact congrArg _ ih
        | fault place failure => rfl
        | tooDeep place => rfl
  rw [resultFrom, outcome, sameHalt, sameTaken]
  simp only [Int.zero_add]
  cases sights.findSome? (Sight.failure? (tooDeep rootId)) <;> rfl

end Moves

/-- On a drive that answers steadily, flattening gives what follows from the unfolded tree. -/
theorem gives_run (store : Store) (rootId : String)
    (active : ∀ world, steady world → caller.isCancelled world = false)
    (answered : ∀ folderId token,
      (source folderId token).Gives steady (Action.resultOf (answers folderId token)))
    (finite : ∀ folderId, Contents.Follow (answers folderId) FolderPage.next? FolderPage.entries
      none (contents folderId))
    (enough : pageRequests FolderEntry.folder? contents (folderLevels + 1) rootId ≤ budget) :
    (run source store rootId caller budget).Gives steady
      (outcome store rootId (treeBelow contents rootId)) := by
  intro world isSteady
  have fetched : ∀ folderId token (_ : List PageRequest),
      (fetch source caller folderId token).Leads steady steady
        (Action.resultOf (answers folderId token)) :=
    fun folderId token _ => (answered folderId token).check_bind active
  obtain ⟨same, stays⟩ := run_of_moves (fun world _ => steady world) fetched store rootId budget
    isSteady
  rw [same, ← resultFrom_bare, bare_moves store rootId finite [] rootId enough, resultFrom_sights]
  exact ⟨rfl, stays⟩

theorem outcome_of_small {store : Store} {rootId : String} {sights : List (Sight FolderEntry)}
    (small : knownSize (filesMet store rootId sights) < bitLimit 63) :
    outcome store rootId sights =
      match sights.findSome? (Sight.failure? (tooDeep rootId)) with
      | some failure => .error (.failure failure)
      | none =>
        let files := sights.filterMap (fileOf? store rootId)
        .ok ⟨files, knownSize files⟩ := by
  rw [outcome, if_pos small]
  cases first : sights.findSome? (Sight.failure? (tooDeep rootId)) with
  | some failure => rfl
  | none => rw [filesMet, metBefore_of_findSome? first]

/-- Unless the sizes overflow, flattening gives what is shown of everything, or the first failure. -/
theorem outcome_eq_verdict {store : Store} {rootId : String} {sights : List (Sight FolderEntry)}
    (small : knownSize (filesMet store rootId sights) < bitLimit 63) :
    outcome store rootId sights =
      (verdict (tooDeep rootId) (shownFile store rootId) sights).map fun files =>
        ⟨files, knownSize files⟩ := by
  rw [outcome_of_small small, verdict, shown_eq_filterMap]
  cases sights.findSome? (Sight.failure? (tooDeep rootId)) <;> rfl

/-- Flattening gives the files of the unfolded tree in depth-first order, or the failure that a walk
in this order meets first.  What it meets lies at most 33 levels below the root, and what lies there
is too deep. -/
theorem run_depthFirst {World : Type} (source : FolderSource World) (store : Store)
    (rootId : String) (caller : Caller World) (steady : World → Prop)
    (answers : String → Option String → Outcome FolderPage)
    (contents : String → Contents FolderEntry)
    (active : ∀ world, steady world → caller.isCancelled world = false)
    (answered : ∀ folderId token,
      (source folderId token).Gives steady (Action.resultOf (answers folderId token)))
    (finite : ∀ folderId, Contents.Follow (answers folderId) FolderPage.next? FolderPage.entries
      none (contents folderId))
    (small : knownSize ((metBefore rootId (treeBelow contents rootId)).filterMap
      (fileOf? store rootId)) < bitLimit 63) :
    (∃ least, ∀ budget, least ≤ budget → ∀ world, steady world →
      ((run source store rootId caller budget).runOn world).1 =
        match (treeBelow contents rootId).findSome? (Sight.failure? (tooDeep rootId)) with
        | some failure => .error (.failure failure)
        | none =>
          let files := (treeBelow contents rootId).filterMap (fileOf? store rootId)
          .ok ⟨files, knownSize files⟩) ∧
    ∀ sight ∈ treeBelow contents rootId, sight.level ≤ 33 ∧
      (sight.level = 33 ↔ ∃ place, sight = .tooDeep place) := by
  refine ⟨⟨pageRequests FolderEntry.folder? contents (folderLevels + 1) rootId,
    fun budget enough world isSteady => ?_⟩, fun sight member => ?_⟩
  · rw [(gives_run store rootId active answered finite enough world isSteady).1,
      outcome_of_small small]
  · exact level_of_mem member

/-- A folder that holds itself is followed until it is too deep. -/
example : (treeBelow (fun _ => ⟨[[.file "f" "Film" 7, .folder "loop" "Loop"]], none⟩)
    "loop").findSome? (Sight.failure? (tooDeep "loop")) = some (tooDeep "loop") := by decide

section SharedFolder

/-- A drive whose root lists the same folder on both of its pages. -/
def sharedAnswers (folderId : String) (token : Option String) : Outcome FolderPage :=
  if folderId = "root" then
    match token with
    | none => .ok ⟨[.folder "disc" "First", .file "film" "Film" 7], some "2"⟩
    | some _ => .ok ⟨[.folder "disc" "Again"], none⟩
  else if folderId = "disc" then .ok ⟨[.file "song" "Song" 5, .file "note" "Note" (-1)], some ""⟩
  else .error (.notFound folderId)

def sharedContents (folderId : String) : Contents FolderEntry :=
  if folderId = "root" then
    ⟨[[.folder "disc" "First", .file "film" "Film" 7], [.folder "disc" "Again"]], none⟩
  else if folderId = "disc" then ⟨[[.file "song" "Song" 5, .file "note" "Note" (-1)]], none⟩
  else ⟨[], some (.notFound folderId)⟩

theorem follow_sharedContents (folderId : String) :
    Contents.Follow (sharedAnswers folderId) FolderPage.next? FolderPage.entries none
      (sharedContents folderId) := by
  by_cases isRoot : folderId = "root"
  · subst isRoot
    let first : FolderPage := ⟨[.folder "disc" "First", .file "film" "Film" 7], some "2"⟩
    let second : FolderPage := ⟨[.folder "disc" "Again"], none⟩
    exact .more first rfl rfl (.last second rfl rfl)
  · by_cases isDisc : folderId = "disc"
    · subst isDisc
      let only : FolderPage := ⟨[.file "song" "Song" 5, .file "note" "Note" (-1)], some ""⟩
      exact .last only rfl rfl
    · rw [sharedContents, if_neg isRoot, if_neg isDisc]
      refine .fault ?_
      rw [sharedAnswers, if_neg isRoot, if_neg isDisc]

/-- The shared folder is flattened wherever it is listed. -/
theorem run_depthFirst_shared :
    (∀ folderId, Contents.Follow (sharedAnswers folderId) FolderPage.next? FolderPage.entries none
      (sharedContents folderId)) ∧
    ∃ least, ∀ budget, least ≤ budget →
      ((run (fun folderId token => Action.ofOutcome (sharedAnswers folderId token)) .seedr "root"
        ⟨none, none, fun _ => false⟩ budget).runOn ()).1 =
        .ok ⟨[⟨-1, "Song", "/First/Song", 5, LockedLink.encode .seedr ⟨"root", "song"⟩, "sd"⟩,
          ⟨-1, "Note", "/First/Note", -1, LockedLink.encode .seedr ⟨"root", "note"⟩, "sd"⟩,
          ⟨-1, "Film", "/Film", 7, LockedLink.encode .seedr ⟨"root", "film"⟩, "sd"⟩,
          ⟨-1, "Song", "/Again/Song", 5, LockedLink.encode .seedr ⟨"root", "song"⟩, "sd"⟩,
          ⟨-1, "Note", "/Again/Note", -1, LockedLink.encode .seedr ⟨"root", "note"⟩, "sd"⟩],
          17⟩ := by
  refine ⟨follow_sharedContents, ?_⟩
  obtain ⟨⟨least, flattens⟩, _⟩ := run_depthFirst
    (fun folderId token => Action.ofOutcome (sharedAnswers folderId token)) .seedr "root"
    ⟨none, none, fun _ => false⟩ (fun _ : Unit => True) sharedAnswers sharedContents
    (fun _ _ => rfl) (fun folderId token => Action.gives_ofOutcome _) follow_sharedContents
    (by decide)
  exact ⟨least, fun budget enough => (flattens budget enough () trivial).trans rfl⟩

end SharedFolder

end Flatten

end StoreGate
