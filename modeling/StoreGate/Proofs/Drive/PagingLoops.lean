import StoreGate.PikPak.Store
import StoreGate.Proofs.Drive.CutWalks
import StoreGate.Proofs.Drive.LoopBudgets
import StoreGate.Proofs.Drive.PageSearches
import StoreGate.Proofs.Drive.Tours
import StoreGate.Proofs.Drive.WalkMoves
import StoreGate.Proofs.PikPak.PackFolders
/-!
# Loops over the pages of a drive

No loop over pages looks at the tokens that it has used before.  On a drive that answers from a
table each of them returns, unless it follows a chain of tokens that leads back; then it runs on and
asks for the same pages again and again.
-/

namespace StoreGate

section Tours

variable {World Request Entry Page : Type} {answers : String → Option String → Outcome Page}
  {next? : Page → Option String} {entries : Page → List Entry}
  {folder? : Entry → Option (String × String)} {deep : Failure}

/-- What stops a depth-first walk first: a failure of the drive, a folder below the deepest level,
or the pages of a folder that go on behind as many as are allowed. -/
def obstacle? (answers : String → Option String → Outcome Page) (next? : Page → Option String)
    (entries : Page → List Entry) (folder? : Entry → Option (String × String)) (deep : Failure)
    (pages : Nat) : (levels : Nat) → (folderId : String) → Option Halt
  | 0, _ => some (.failure deep)
  | levels + 1, folderId =>
    let found := course (answers folderId) next? pages none
    (found.1.findSome? fun page => (entries page).findSome? fun entry =>
      match folder? entry with
      | none => none
      | some (id, _) => obstacle? answers next? entries folder? deep pages levels id).or found.2

theorem obstacle?_settled {count pages : Nat} (few : ∀ folderId, HasPages count (answers folderId))
    (enough : count < pages) (levels : Nat) (folderId : String) :
    obstacle? answers next? entries folder? deep pages levels folderId =
      obstacle? answers next? entries folder? deep (count + 1) levels folderId := by
  induction levels generalizing folderId with
  | zero => rfl
  | succ levels ih =>
      obtain ⟨sameStop, sameFound⟩ := course_settled (few folderId) next? enough
      simp only [obstacle?, ih, sameStop, sameFound]

/-- Pages that go on behind all that there are belong to a chain that leads back. -/
theorem exists_circles {count levels : Nat} {folderId : String}
    (few : ∀ folderId, HasPages count (answers folderId))
    (endless : obstacle? answers next? entries folder? deep (count + 1) levels folderId =
      some .unfinished) : ∃ id, Circles (answers id) next? := by
  induction levels generalizing folderId with
  | zero => cases endless
  | succ levels ih =>
      rw [obstacle?, Option.or_eq_some_iff] at endless
      -- The walk is stopped below an entry of the folder, or by the pages of the folder itself.
      rcases endless with below | ⟨_, here⟩
      · obtain ⟨page, _, below⟩ := List.exists_of_findSome?_eq_some below
        obtain ⟨entry, _, below⟩ := List.exists_of_findSome?_eq_some below
        cases isFolder : folder? entry with
        | none => rw [isFolder] at below; cases below
        | some folder => rw [isFolder] at below; exact ih below
      · exact ⟨folderId, (unfinished_iff_circles (few folderId) (Nat.lt_succ_self count)).mp here⟩

variable {reading : Reading (Recorded World Request) Entry Page}

theorem stops_tour (asks : ∀ folderId, Action.Asks (reading.fetch folderId) (answers folderId))
    (levels : Nat) (place : List String) (folderId : String) :
    (reading.tour levels place folderId).Stops reading.budget
      (obstacle? answers reading.next? reading.entries reading.folder? reading.deep reading.budget
        levels folderId) := by
  induction levels generalizing place folderId with
  | zero => exact Action.stops_fail reading.deep
  | succ levels ih =>
      rw [Reading.tour, obstacle?]
      refine Action.stops_overPages (asks folderId) (fun page =>
        Action.stops_collect (fun entry => ?_) _) (Nat.le_refl _) none
      cases reading.folder? entry with
      | none => exact Action.stops_pure [(place, entry)]
      | some folder => exact (ih _ _).bind_pure ((place, entry) :: ·)

theorem refines_tour {more : Nat} (enough : reading.budget ≤ more) (levels : Nat)
    (place : List String) (folderId : String) :
    (reading.tour levels place folderId).Refines
      (({ reading with budget := more } : Reading _ _ _).tour levels place folderId) := by
  induction levels generalizing place folderId with
  | zero => exact Action.refines_refl _
  | succ levels ih =>
      rw [Reading.tour, Reading.tour]
      refine Action.refines_overPages (fun page => Action.refines_collect (fun entry => ?_) _)
        enough none
      dsimp only
      cases reading.folder? entry with
      | none => exact Action.refines_refl _
      | some folder => exact (ih _ _).bind fun inside => Action.refines_refl _

end Tours

section Tables

variable {World Request Page α : Type} {words : String} {key ip : Option String}

/-- The answers of a drive whose pages stand in a table, each under its folder and its token. -/
def lookUp (rows : List ((String × Option String) × Page)) (folderId : String)
    (token : Option String) : Outcome Page :=
  match rows.lookup (folderId, token) with
  | some page => .ok page
  | none => .error (.notFound folderId)

theorem hasPages_lookUp (rows : List ((String × Option String) × Page)) (folderId : String) :
    HasPages rows.length (lookUp rows folderId) := by
  refine ⟨rows.map fun row => row.1.2, Nat.le_of_eq (List.length_map _), fun token page found => ?_⟩
  unfold lookUp at found
  cases row : rows.lookup (folderId, token) with
  | none => rw [row] at found; cases found
  | some listed =>
      obtain ⟨before, after, rfl, _⟩ := List.lookup_eq_some_iff.mp row
      exact List.mem_map.mpr ⟨((folderId, token), listed), by simp, rfl⟩

/-- A request that is answered from a table, behind a check on a caller who does not give up. -/
theorem asks_patient {answer : Option String → Outcome Page} {request : Option String → Request} :
    Action.Asks (fun token => do
      (Caller.patient key ip : Caller (Recorded World Request)).check words
      (Action.ofOutcome (answer token)).recorded (request token)) answer := by
  intro token start
  rw [Action.runOn_bind, Action.runOn_check]
  change ((((Action.ofOutcome (answer token) : Action World Page).recorded
      (request token)).runOn start).1 = _ ∧
    (((Action.ofOutcome (answer token) : Action World Page).recorded
      (request token)).runOn start).2.2.length = _)
  obtain ⟨world, requests⟩ := start
  rw [Action.runOn_recorded, Action.runOn_ofOutcome]
  exact ⟨rfl, List.length_append⟩

theorem asks_recorded {answer : Option String → Outcome Page} {request : Option String → Request} :
    Action.Asks (fun token => (Action.ofOutcome (answer token) : Action World Page).recorded
      (request token)) answer := by
  rintro token ⟨world, requests⟩
  rw [Action.runOn_recorded, Action.runOn_ofOutcome]
  exact ⟨rfl, List.length_append⟩

end Tables

namespace Flatten

variable {folders : String → Option String → Outcome FolderPage} {count : Nat}

/-- A source of folders that answers from a table. -/
def tableSource (folders : String → Option String → Outcome FolderPage) :
    FolderSource (Recorded Unit (String × Option String)) :=
  recordedSource fun folderId token => Action.ofOutcome (folders folderId token)

/-- What stops flattening a drive first. -/
def obstacle? (folders : String → Option String → Outcome FolderPage) (pages : Nat)
    (rootId : String) : Option Halt :=
  StoreGate.obstacle? folders FolderPage.next? FolderPage.entries FolderEntry.folder?
    (tooDeep rootId) pages (folderLevels + 1) rootId

theorem asks_tableSource (rootId : String) (key ip : Option String) (budget : Nat)
    (folderId : String) :
    Action.Asks ((reading (tableSource folders) rootId (Caller.patient key ip) budget).fetch
      folderId) (folders folderId) :=
  asks_patient

/-- The files that a walk meets before it stops, if every folder may have a number of pages. -/
def filesOnTheWay (folders : String → Option String → Outcome FolderPage) (store : Store)
    (pages : Nat) (rootId : String) : List ItemFile :=
  taken (moves folders store rootId pages (folderLevels + 1) [] rootId)

theorem findSome?_flatMap {Member Part α : Type} (parts : Member → List Part)
    (found? : Part → Option α) (members : List Member) :
    (members.flatMap parts).findSome? found? =
      members.findSome? fun member => (parts member).findSome? found? := by
  induction members with
  | nil => rfl
  | cons first rest ih =>
      rw [List.flatMap_cons, List.findSome?_append, List.findSome?_cons, ih]
      cases (parts first).findSome? found? <;> rfl

theorem halt?_pageMoves (answer : Option String → Outcome FolderPage)
    (visit : FolderPage → List Move) (folderId : String) (budget : Nat) (token : Option String) :
    (pageMoves answer visit folderId budget token).findSome? Move.halt? =
      ((course answer FolderPage.next? budget token).1.findSome? fun page =>
        (visit page).findSome? Move.halt?).or (course answer FolderPage.next? budget token).2 := by
  induction budget generalizing token with
  | zero => rfl
  | succ budget ih =>
      rw [pageMoves]
      cases answered : answer token with
      | error failure =>
          rw [course_of_fault answered]
          rfl
      | ok page =>
          rw [List.findSome?_cons_of_isNone rfl, List.findSome?_append]
          cases named : page.next? with
          | none => rw [course_of_last answered named, List.findSome?_singleton]; rfl
          | some further =>
              rw [course_of_more answered named, List.findSome?_cons]
              dsimp only
              rw [ih (some further)]
              cases (visit page).findSome? Move.halt? <;> rfl

/-- The first move that stops a walk is made where something stops it first. -/
theorem halt?_moves (folders : String → Option String → Outcome FolderPage) (store : Store)
    (rootId : String) (budget levels : Nat) (place : List String) (folderId : String) :
    (moves folders store rootId budget levels place folderId).findSome? Move.halt? =
      StoreGate.obstacle? folders FolderPage.next? FolderPage.entries FolderEntry.folder?
        (tooDeep rootId) budget levels folderId := by
  induction levels generalizing place folderId with
  | zero => rfl
  | succ levels ih =>
      rw [moves, halt?_pageMoves, StoreGate.obstacle?]
      simp only [findSome?_flatMap]
      congr 2
      funext page
      congr 1
      funext entry
      cases entry with
      | file id name size => rfl
      | folder id name => exact ih _ id

/-- A walk that meets nothing too large uses up a budget if the budget is what stops it. -/
theorem resultFrom_moves_eq_unfinished_iff (store : Store) (rootId : String) (budget : Nat) :
    resultFrom 0 (moves folders store rootId budget (folderLevels + 1) [] rootId) =
        .error .unfinished ↔
      knownSize (filesOnTheWay folders store budget rootId) < bitLimit 63 ∧
        obstacle? folders budget rootId = some .unfinished := by
  rw [resultFrom, halt?_moves, Int.zero_add, ← obstacle?, ← filesOnTheWay]
  split
  · rename_i small
    cases obstacle? folders budget rootId <;> simp [small]
  · rename_i large
    simp [large]

theorem runOn_run_tableSource (store : Store) (rootId : String) (key ip : Option String)
    (budget : Nat) (start : Recorded Unit (String × Option String)) :
    ((run (tableSource folders) store rootId (Caller.patient key ip) budget).runOn start).1 =
      resultFrom 0 (moves folders store rootId budget (folderLevels + 1) [] rootId) := by
  have fetched : ∀ folderId token (_ : List PageRequest),
      (fetch (tableSource folders) (Caller.patient key ip) folderId token).Leads (fun _ => True)
        (fun _ => True) (Action.resultOf (folders folderId token)) :=
    fun folderId token _ start _ =>
      ⟨(asks_tableSource rootId key ip budget folderId token start).1, trivial⟩
  exact (run_of_moves (fun _ _ => True) fetched store rootId budget trivial).1

theorem refines_run (source : FolderSource (Recorded Unit (String × Option String)))
    (store : Store) (rootId : String)
    (caller : Caller (Recorded Unit (String × Option String))) {budget more : Nat}
    (enough : budget ≤ more) :
    (run source store rootId caller budget).Refines (run source store rootId caller more) := by
  have walks : ∀ levels folderId path, (walk source store rootId caller budget levels folderId
      path).Refines (walk source store rootId caller more levels folderId path) := by
    intro levels
    induction levels with
    | zero => exact fun _ _ => Action.refines_refl _
    | succ levels ih =>
        intro folderId path
        refine Action.refines_overPages (fun page => Action.refines_collect (fun entry => ?_) _)
          enough none
        cases entry with
        | folder id name => exact ih id _
        | file id name size => exact Action.refines_refl _
  intro start
  rw [runOn_run, runOn_run]
  rcases walks (folderLevels + 1) rootId "" ⟨0, start⟩ with unfinished | same
  · left
    cases ran : (walk source store rootId caller budget (folderLevels + 1) rootId "").runOn
        ⟨0, start⟩ with
    | mk result tally =>
        rw [ran] at unfinished
        cases unfinished
        rfl
  · exact Or.inr (by rw [same])

/-- Flattening that uses up its budget has asked for as many pages. -/
theorem spends_run (store : Store) (rootId : String) (key ip : Option String) (budget : Nat)
    (start : Recorded Unit (String × Option String))
    (unfinished : ((run (tableSource folders) store rootId (Caller.patient key ip) budget).runOn
      start).1 = .error .unfinished) :
    start.2.length + budget ≤ ((run (tableSource folders) store rootId (Caller.patient key ip)
      budget).runOn start).2.2.length := by
  have toured := gather_eq_tour (tableSource folders) store rootId (Caller.patient key ip) budget
    (folderLevels + 1) [] rootId
  rw [pathOf] at toured
  have asks : ∀ folderId, Action.Asks ((reading (tableSource folders) rootId
      (Caller.patient key ip) budget).fetch folderId) (folders folderId) :=
    asks_tableSource rootId key ip budget
  have stops := (stops_tour asks (folderLevels + 1) [] rootId).map
    (List.flatMap fun met => shownFile store rootId met.1 met.2)
  have gathered := run_follows_gather (tableSource folders) store rootId (Caller.patient key ip)
    budget start
  rw [unfinished, toured] at gathered
  rcases gathered with overflow | gathered
  · cases overflow
  have spent := stops.spends start (congrArg Prod.fst gathered)
  rw [gathered] at spent
  exact spent

theorem run_returnsUnless (few : ∀ folderId, HasPages count (folders folderId)) (store : Store)
    (rootId : String) (key ip : Option String) :
    ReturnsUnless
      (obstacle? folders (count + 1) rootId = some .unfinished ∧
        ∀ pages, knownSize (filesOnTheWay folders store pages rootId) < bitLimit 63)
      (run (tableSource folders) store rootId (Caller.patient key ip)) := by
  have refines := fun {budget more} (enough : budget ≤ more) =>
    refines_run (tableSource folders) store rootId (Caller.patient key ip) enough
  have returns := returnsUnless_of_refines
    (fun budget start => by rw [runOn_run_tableSource, resultFrom_moves_eq_unfinished_iff])
    (spends_run store rootId key ip) refines
  suffices settled : (obstacle? folders (count + 1) rootId = some .unfinished ∧
      ∀ pages, knownSize (filesOnTheWay folders store pages rootId) < bitLimit 63) ↔
        ∀ budget, knownSize (filesOnTheWay folders store budget rootId) < bitLimit 63 ∧
          obstacle? folders budget rootId = some .unfinished by
    rwa [settled]
  constructor
  · rintro ⟨endless, small⟩ budget
    -- Under a larger budget the walk is stopped by the budget, so it is under this one.
    have settled : obstacle? folders (max budget (count + 1)) rootId = some .unfinished :=
      (obstacle?_settled few (Nat.le_max_right budget (count + 1)) _ _).trans endless
    have longer := (runOn_run_tableSource store rootId key ip (max budget (count + 1))
      ((), [])).trans ((resultFrom_moves_eq_unfinished_iff store rootId _).mpr
        ⟨small _, settled⟩)
    rw [← resultFrom_moves_eq_unfinished_iff, ← runOn_run_tableSource store rootId key ip budget
      ((), [])]
    rcases refines (Nat.le_max_left budget (count + 1)) ((), []) with unfinished | same
    · exact unfinished
    · rwa [← same]
  · exact fun all => ⟨(all (count + 1)).2, fun pages => (all pages).1⟩

end Flatten

namespace DriveBrowser

variable {items : FileQuery → Outcome DrivePage} {count : Nat}

/-- A browser that answers from a table. -/
def ofTable (items : FileQuery → Outcome DrivePage) (budget : Nat) :
    DriveBrowser (Recorded Unit FileQuery) where
  listFiles _ query := (Action.ofOutcome (items query)).recorded query
  fileDetails _ id := Action.fail (.notFound id)
  pageBudget := budget

/-- What stops a walk over a drive first. -/
def obstacle? (items : FileQuery → Outcome DrivePage) (pages : Nat) (rootId : String) :
    Option Halt :=
  StoreGate.obstacle? (fun folderId token => items (FileQuery.page folderId token))
    DrivePage.next DrivePage.files DriveItem.folder? (tooDeep rootId) pages (folderLevels + 1)
    rootId

theorem asks_ofTable (key ip : Option String) (budget : Nat) (query : Option String → FileQuery) :
    Action.Asks (fun token => (ofTable items budget).fetch (Caller.patient key ip) (query token))
      fun token => items (query token) :=
  asks_patient

theorem walk_returnsUnless
    (few : ∀ folderId, HasPages count fun token => items (FileQuery.page folderId token))
    (rootId : String) (filesOnly : Bool) (key ip : Option String) :
    ReturnsUnless (obstacle? items (count + 1) rootId = some .unfinished)
      (fun budget => (ofTable items budget).walk (Caller.patient key ip) rootId filesOnly
        (folderLevels + 1) rootId "") := by
  have toured := fun budget => (ofTable items budget).walk_eq_tour (Caller.patient key ip) rootId
    filesOnly (folderLevels + 1) [] rootId
  simp only [pathOf] at toured
  have asks : ∀ budget folderId,
      Action.Asks (((ofTable items budget).reading (Caller.patient key ip) rootId).fetch folderId)
        fun token => items (FileQuery.page folderId token) :=
    fun budget folderId => asks_ofTable key ip budget (FileQuery.page folderId)
  refine returnsUnless_of_stops (fun budget => obstacle? items budget rootId) (fun budget => ?_)
    (fun {budget more} enough => ?_) (fun budget enough => obstacle?_settled few enough _ _)
  · rw [toured]
    exact (stops_tour (asks budget) _ _ _).map _
  · rw [toured, toured]
    exact (refines_tour enough _ _ _).map _

theorem listVideos_returnsUnless (parentId : String)
    (few : HasPages count fun token => items (kindQuery .file parentId token))
    (key ip : Option String) :
    ReturnsUnless (Circles (fun token => items (kindQuery .file parentId token)) DrivePage.next)
      (fun budget => (ofTable items budget).listVideos (Caller.patient key ip) parentId) := by
  rw [← unfinished_iff_circles few (Nat.lt_succ_self count)]
  refine returnsUnless_of_stops (fun budget => (course
      (fun token => items (kindQuery .file parentId token)) DrivePage.next budget none).2)
    (fun budget => ?_) (fun {budget more} enough => ?_)
    (fun budget enough => (course_settled few _ enough).1)
  · exact Action.stops_readPages (asks_ofTable key ip budget (kindQuery .file parentId))
      (fun page => page.files.filter DriveItem.isVideo) budget none
  · exact Action.refines_overPages (fun page => Action.refines_refl _) enough none

/-- What stops a look-up for a folder by its name. -/
def lookupHalt (answer : Option String → Outcome DrivePage) (name : String) (budget : Nat) :
    Option Halt :=
  Action.searchHalt answer DrivePage.next (fun page => page.files.find? (isFolderNamed name))
    (.notFound ("folder not found: " ++ name)) budget none

/-- Whether pages that are led to show no folder with a name. -/
def ShowNoFolder (answer : Option String → Outcome DrivePage) (name : String) : Prop :=
  ∀ token page, Relation.ReflTransGen (Names answer DrivePage.next) none token →
    answer token = .ok page → ∀ item ∈ page.files, ¬ (item.kind = .folder ∧ item.name = name)

theorem showNoFolder_iff {answer : Option String → Outcome DrivePage}
    (few : HasPages count answer) (name : String) :
    ShowNoFolder answer name ↔ ((course answer DrivePage.next (count + 1) none).1.findSome?
      fun page => page.files.find? (isFolderNamed name)) = none := by
  obtain ⟨known, length, all⟩ := few
  simp only [List.findSome?_eq_none_iff, List.find?_eq_none, isFolderNamed_iff]
  constructor
  · intro absent page member
    obtain ⟨token, leads, found⟩ := reached_of_mem member
    exact absent token page leads found
  · intro absent token page leads found
    exact absent page (mem_course_of_reached (Nat.le_succ_of_le length) all leads found)

theorem lookupHalt_eq_unfinished_iff {answer : Option String → Outcome DrivePage}
    (few : HasPages count answer) (name : String) :
    lookupHalt answer name (count + 1) = some .unfinished ↔
      Circles answer DrivePage.next ∧ ShowNoFolder answer name := by
  rw [← unfinished_iff_circles few (Nat.lt_succ_self count), showNoFolder_iff few, lookupHalt,
    Action.searchHalt]
  cases (course answer DrivePage.next (count + 1) none).1.findSome? fun page =>
      page.files.find? (isFolderNamed name) with
  | some folder => simp
  | none => cases (course answer DrivePage.next (count + 1) none).2 <;> simp

theorem folderByName_returnsUnless (parentId name : String)
    (few : HasPages count fun token => items (kindQuery .folder parentId token))
    (key ip : Option String) :
    ReturnsUnless
      (Circles (fun token => items (kindQuery .folder parentId token)) DrivePage.next ∧
        ShowNoFolder (fun token => items (kindQuery .folder parentId token)) name)
      (fun budget =>
        (ofTable items budget).folderByName (Caller.patient key ip) parentId name) := by
  rw [← lookupHalt_eq_unfinished_iff few name]
  refine returnsUnless_of_stops
    (lookupHalt (fun token => items (kindQuery .folder parentId token)) name) (fun budget => ?_)
    (fun {budget more} enough => ?_) (fun budget enough => ?_)
  · exact (asks_ofTable key ip budget (kindQuery .folder parentId)).stops_search
      (fun least item => Action.stops_pure item) (fun least => Action.stops_fail _) budget none
  · exact (Action.refines_searchPages enough none).bind fun found => Action.refines_refl _
  · obtain ⟨sameStop, sameFound⟩ := course_settled few DrivePage.next enough
    rw [lookupHalt, lookupHalt, Action.searchHalt, Action.searchHalt, sameStop, sameFound]

end DriveBrowser

namespace PikPak.Drive

variable {lists : FileFilter → Outcome FileList} {count : Nat}

/-- A drive whose files are listed from a table. -/
def ofTable (drive : Drive (Recorded Unit FileFilter)) (lists : FileFilter → Outcome FileList)
    (budget : Nat) : Drive (Recorded Unit FileFilter) :=
  { drive with
    api := { drive.api with
      listFiles := fun _ filter => (Action.ofOutcome (lists filter)).recorded filter }
    pageBudget := budget }

/-- The folder that is taken for the folder of downloads. -/
def pack? (lists : FileFilter → Outcome FileList) : Option File :=
  match lists (FileFilter.completed "" none) with
  | .ok list => list.files.find? (·.name = packName)
  | .error _ => none

/-- What stops a listing of the folder of downloads. -/
def packHalt (lists : FileFilter → Outcome FileList) (budget : Nat) : Option Halt :=
  match lists (FileFilter.completed "" none) with
  | .error failure => some (.failure failure)
  | .ok list =>
    match list.files.find? (·.name = packName) with
    | none => some (.failure packMissing)
    | some pack =>
      (course (fun token => lists (FileFilter.completed pack.id token)) FileList.next? budget
        none).2

theorem packHalt_eq_unfinished_iff
    (few : ∀ folderId, HasPages count fun token => lists (FileFilter.completed folderId token)) :
    packHalt lists (count + 1) = some .unfinished ↔ ∃ pack, pack? lists = some pack ∧
      Circles (fun token => lists (FileFilter.completed pack.id token)) FileList.next? := by
  rw [packHalt, pack?]
  cases lists (FileFilter.completed "" none) with
  | error failure => simp
  | ok list =>
      dsimp only
      cases list.files.find? (·.name = packName) with
      | none => simp
      | some pack => simp [unfinished_iff_circles (few pack.id) (Nat.lt_succ_self count)]

theorem stops_packFiles (drive : Drive (Recorded Unit FileFilter)) (key : String) (budget : Nat) :
    ((drive.ofTable lists budget).packFiles key).Stops budget (packHalt lists budget) := by
  have asks : ∀ folderId, Action.Asks (fun token => (drive.ofTable lists budget).api.listFiles key
      (FileFilter.completed folderId token)) fun token =>
        lists (FileFilter.completed folderId token) := fun _ => asks_recorded
  rw [packFiles, packFolder, bind_assoc, packHalt]
  cases answered : lists (FileFilter.completed "" none) with
  | error failure => exact (asks "").stops_of_fault answered _
  | ok list =>
      -- The page of the root is asked for under any budget, beside the pages of the folder.
      refine ((asks "").stops_of_page answered ?_).weaken (Nat.le_succ budget)
      dsimp only
      cases list.files.find? (·.name = packName) with
      | none => exact Action.stops_fail packMissing
      | some pack => exact Action.stops_readPages (asks pack.id) FileList.files budget none

theorem packFiles_returnsUnless
    (few : ∀ folderId, HasPages count fun token => lists (FileFilter.completed folderId token))
    (drive : Drive (Recorded Unit FileFilter)) (key : String) :
    ReturnsUnless
      (∃ pack, pack? lists = some pack ∧
        Circles (fun token => lists (FileFilter.completed pack.id token)) FileList.next?)
      (fun budget => (drive.ofTable lists budget).packFiles key) := by
  rw [← packHalt_eq_unfinished_iff few]
  refine returnsUnless_of_stops (packHalt lists) (stops_packFiles drive key)
    (fun {budget more} enough => ?_) (fun budget enough => ?_)
  · exact (Action.refines_refl _).bind fun pack =>
      Action.refines_overPages (fun page => Action.refines_refl _) enough none
  · rw [packHalt, packHalt]
    cases lists (FileFilter.completed "" none) with
    | error failure => rfl
    | ok list =>
        dsimp only
        cases list.files.find? (·.name = packName) with
        | none => rfl
        | some pack => exact (course_settled (few pack.id) _ enough).1

end PikPak.Drive

/-- On a drive that answers from a table with finitely many pages for each folder, every loop over
pages returns for a caller who does not give up, unless it follows a chain of tokens that leads
back; then it runs on, and asks for more pages than any number.  Listing videos and listing the
folder of downloads run on if the chain of their folder leads back, and a look-up by name if in
addition no page that is led to shows the folder.  Browsing runs on if a chain that leads back is
what stops the walk first, in depth-first order, and flattening does if in addition the sizes of the
files that it meets never overflow. -/
theorem loops_return_unless_led_back (folders : String → Option String → Outcome FolderPage)
    (items : FileQuery → Outcome DrivePage) (lists : PikPak.FileFilter → Outcome PikPak.FileList)
    (count : Nat) (fewFolders : ∀ folderId, HasPages count (folders folderId))
    (fewItems : ∀ query : FileQuery,
      HasPages count fun token => items { query with pageToken := token })
    (fewLists : ∀ filter : PikPak.FileFilter,
      HasPages count fun token => lists { filter with pageToken := token })
    (store : Store) (drive : PikPak.Drive (Recorded Unit PikPak.FileFilter))
    (rootId name key : String) (apiKey clientIp : Option String) :
    ReturnsUnless
      (Flatten.obstacle? folders (count + 1) rootId = some .unfinished ∧
        ∀ pages, Flatten.knownSize (Flatten.filesOnTheWay folders store pages rootId) <
          bitLimit 63)
      (Flatten.run (Flatten.tableSource folders) store rootId
        (Caller.patient apiKey clientIp)) ∧
    ReturnsUnless (DriveBrowser.obstacle? items (count + 1) rootId = some .unfinished)
      (fun budget => (DriveBrowser.ofTable items budget).listRecursive
        (Caller.patient apiKey clientIp) rootId) ∧
    ReturnsUnless (DriveBrowser.obstacle? items (count + 1) rootId = some .unfinished)
      (fun budget => (DriveBrowser.ofTable items budget).listFlat
        (Caller.patient apiKey clientIp) rootId) ∧
    ReturnsUnless
      (Circles (fun token => items (DriveBrowser.kindQuery .folder rootId token))
          DrivePage.next ∧
        DriveBrowser.ShowNoFolder
          (fun token => items (DriveBrowser.kindQuery .folder rootId token)) name)
      (fun budget => (DriveBrowser.ofTable items budget).folderByName
        (Caller.patient apiKey clientIp) rootId name) ∧
    ReturnsUnless
      (Circles (fun token => items (DriveBrowser.kindQuery .file rootId token)) DrivePage.next)
      (fun budget => (DriveBrowser.ofTable items budget).listVideos
        (Caller.patient apiKey clientIp) rootId) ∧
    ReturnsUnless
      (∃ pack, PikPak.Drive.pack? lists = some pack ∧
        Circles (fun token => lists (PikPak.FileFilter.completed pack.id token))
          PikPak.FileList.next?)
      (fun budget => (drive.ofTable lists budget).packFiles key) ∧
    (Flatten.obstacle? folders (count + 1) rootId = some .unfinished →
      ∃ folderId, Circles (folders folderId) FolderPage.next?) ∧
    (DriveBrowser.obstacle? items (count + 1) rootId = some .unfinished →
      ∃ folderId, Circles (fun token => items (FileQuery.page folderId token))
        DrivePage.next) := by
  have fewPages : ∀ folderId, HasPages count fun token => items (FileQuery.page folderId token) :=
    fun folderId => fewItems (FileQuery.page folderId none)
  have fewOfKind : ∀ kind, HasPages count
      fun token => items (DriveBrowser.kindQuery kind rootId token) :=
    fun kind => fewItems (DriveBrowser.kindQuery kind rootId none)
  have fewFiles : ∀ folderId, HasPages count
      fun token => lists (PikPak.FileFilter.completed folderId token) :=
    fun folderId => fewLists (PikPak.FileFilter.completed folderId none)
  refine ⟨?_, ?_, ?_, ?_, ?_, ?_, ?_, ?_⟩
  · exact Flatten.run_returnsUnless fewFolders store rootId apiKey clientIp
  · exact DriveBrowser.walk_returnsUnless fewPages rootId false apiKey clientIp
  · exact DriveBrowser.walk_returnsUnless fewPages rootId true apiKey clientIp
  · exact DriveBrowser.folderByName_returnsUnless rootId name (fewOfKind .folder) apiKey clientIp
  · exact DriveBrowser.listVideos_returnsUnless rootId (fewOfKind .file) apiKey clientIp
  · exact PikPak.Drive.packFiles_returnsUnless fewFiles drive key
  · exact exists_circles fewFolders
  · exact exists_circles fewPages

section Rings

/-- A folder whose pages end, and a folder whose second page names itself as the next one. -/
def ringFolders : String → Option String → Outcome FolderPage :=
  lookUp [(("root", none), ⟨[.folder "disc" "Disc"], some "2"⟩),
    (("root", some "2"), ⟨[.file "film" "Film" 7], none⟩),
    (("disc", none), ⟨[.file "song" "Song" 5], none⟩),
    (("ring", none), ⟨[.file "film" "Film" 7], some "2"⟩), (("ring", some "2"), ⟨[], some "2"⟩)]

def ringItems (query : FileQuery) : Outcome DrivePage :=
  lookUp [(("ring", none), .make [DriveBrowser.named "film" "Film" .file] (some "2")),
    (("ring", some "2"), .make [] (some "2"))] query.parentId query.pageToken

def ringLists (filter : PikPak.FileFilter) : Outcome PikPak.FileList :=
  lookUp [(("", none), ⟨[PikPak.pack], ""⟩), (("pack", none), ⟨[], "2"⟩),
    (("pack", some "2"), ⟨[], "2"⟩)] filter.parentId filter.pageToken

def ringDrive : PikPak.Drive (Recorded Unit PikPak.FileFilter) where
  api := {
    listFiles := fun _ filter => Action.fail (.notFound filter.parentId)
    file := fun _ id => Action.fail (.notFound id)
    addUrl := fun _ _ => Action.fail (.network "connection reset")
    listTasks := fun _ _ => pure []
    trash := fun _ _ => pure ()
    account := fun _ => Action.fail (.network "connection reset")
    membership := fun _ => Action.fail (.network "connection reset") }
  clock := ⟨fun _ => 0, fun _ => Timestamp.epoch, fun _ world => world⟩
  apiKey := some "key"
  policy := PollPolicy.standard
  listing := ⟨.pikPak, Listing.standardLifetime⟩
  availability := Availability.unknown
  pageBudget := 1

theorem hasPages_of_le {Page : Type} {answer : Option String → Outcome Page} {count more : Nat}
    (few : HasPages count answer) (enough : count ≤ more) : HasPages more answer := by
  obtain ⟨known, length, all⟩ := few
  exact ⟨known, Nat.le_trans length enough, all⟩

theorem few_ringFolders (folderId : String) : HasPages 5 (ringFolders folderId) :=
  hasPages_of_le (hasPages_lookUp _ folderId) (by decide)

theorem few_ringItems (query : FileQuery) :
    HasPages 5 fun token => ringItems { query with pageToken := token } :=
  hasPages_of_le (hasPages_lookUp _ query.parentId) (by decide)

theorem few_ringLists (filter : PikPak.FileFilter) :
    HasPages 5 fun token => ringLists { filter with pageToken := token } :=
  hasPages_of_le (hasPages_lookUp _ filter.parentId) (by decide)

/-- The second page of the ring shows nothing, however often it is asked for. -/
theorem taken_ring {visit : FolderPage → List Flatten.Move}
    (nothing : visit ⟨[], some "2"⟩ = []) (budget : Nat) :
    Flatten.taken (Flatten.pageMoves (ringFolders "ring") visit "ring" budget (some "2")) = [] := by
  induction budget with
  | zero => rfl
  | succ budget ih =>
      have answered : ringFolders "ring" (some "2") = .ok ⟨[], some "2"⟩ := rfl
      have named : (⟨[], some "2"⟩ : FolderPage).next? = some "2" := rfl
      rw [Flatten.pageMoves, answered]
      dsimp only
      rw [nothing, List.nil_append, named]
      exact ih

theorem small_ringFolders (pages : Nat) :
    Flatten.knownSize (Flatten.filesOnTheWay ringFolders .pikPak pages "ring") < bitLimit 63 := by
  cases pages with
  | zero => decide
  | succ budget =>
      have single : Flatten.filesOnTheWay ringFolders .pikPak (budget + 1) "ring" =
          [Flatten.fileAt .pikPak "ring" "" "film" "Film" 7] :=
        congrArg (List.cons _) (taken_ring rfl budget)
      rw [single]
      decide

/-- Flattening the folder whose pages end returns, and flattening the other one does not. -/
theorem loops_return_unless_led_back_ring :
    ((∀ folderId, HasPages 5 (ringFolders folderId)) ∧
      (∀ query : FileQuery, HasPages 5 fun token => ringItems { query with pageToken := token }) ∧
      ∀ filter : PikPak.FileFilter,
        HasPages 5 fun token => ringLists { filter with pageToken := token }) ∧
    Returns (Flatten.run (Flatten.tableSource ringFolders) .pikPak "root"
      (Caller.patient none none)) ∧
    RunsOn (Flatten.run (Flatten.tableSource ringFolders) .pikPak "ring"
      (Caller.patient none none)) := by
  refine ⟨⟨few_ringFolders, few_ringItems, few_ringLists⟩, ?_, ?_⟩
  · exact (loops_return_unless_led_back ringFolders ringItems ringLists 5 few_ringFolders
      few_ringItems few_ringLists .pikPak ringDrive "root" "Films" "key" none none).1.returns
        (mt And.left (by decide))
  · exact (loops_return_unless_led_back ringFolders ringItems ringLists 5 few_ringFolders
      few_ringItems few_ringLists .pikPak ringDrive "ring" "Films" "key" none none).1.runsOn
        ⟨by decide, small_ringFolders⟩

/-- A page that names itself as the next one keeps every loop going. -/
theorem ring_runs_on :
    RunsOn (Flatten.run (Flatten.tableSource ringFolders) .pikPak "ring"
      (Caller.patient none none)) ∧
    RunsOn (fun budget => (DriveBrowser.ofTable ringItems budget).listRecursive
      (Caller.patient none none) "ring") ∧
    RunsOn (fun budget => (DriveBrowser.ofTable ringItems budget).listFlat
      (Caller.patient none none) "ring") ∧
    RunsOn (fun budget => (DriveBrowser.ofTable ringItems budget).folderByName
      (Caller.patient none none) "ring" "Films") ∧
    RunsOn (fun budget => (DriveBrowser.ofTable ringItems budget).listVideos
      (Caller.patient none none) "ring") ∧
    RunsOn (fun budget => (ringDrive.ofTable ringLists budget).packFiles "key") := by
  have fewPages := fun folderId => few_ringItems (FileQuery.page folderId none)
  have fewOfKind := fun kind => few_ringItems (DriveBrowser.kindQuery kind "ring" none)
  have fewFiles := fun folderId => few_ringLists (PikPak.FileFilter.completed folderId none)
  refine ⟨?_, ?_, ?_, ?_, ?_, ?_⟩
  · exact (Flatten.run_returnsUnless few_ringFolders _ _ _ _).runsOn
      ⟨by decide, small_ringFolders⟩
  · exact (DriveBrowser.walk_returnsUnless fewPages _ _ _ _).runsOn (by decide)
  · exact (DriveBrowser.walk_returnsUnless fewPages _ _ _ _).runsOn (by decide)
  · refine (DriveBrowser.folderByName_returnsUnless _ _ (fewOfKind .folder) _ _).runsOn ?_
    exact (DriveBrowser.lookupHalt_eq_unfinished_iff (fewOfKind .folder) "Films").mp (by decide)
  · refine (DriveBrowser.listVideos_returnsUnless _ (fewOfKind .file) _ _).runsOn ?_
    exact (unfinished_iff_circles (fewOfKind .file) (Nat.lt_succ_self 5)).mp (by decide)
  · refine (PikPak.Drive.packFiles_returnsUnless fewFiles _ _).runsOn ?_
    exact (PikPak.Drive.packHalt_eq_unfinished_iff fewFiles).mp (by decide)

end Rings

end StoreGate
