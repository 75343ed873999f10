import StoreGate.Proofs.Drive.PageSearches
import StoreGate.Proofs.PikPak.TreeWalks
/-!
# The folder that downloads are put in

Listings and look-ups of items begin with the folder of downloads in the root of a drive.  The store
takes whatever has the name of this folder first on the first page of the root.  A look-up by name
goes through all pages and takes folders only, so the two agree only on some drives.
-/

namespace StoreGate.PikPak

/-- Whether a file is a folder with the name of the folder of downloads. -/
def File.isPack (file : File) : Bool :=
  file.isFolder && file.name = packName

/-- What the store says if it finds no folder of downloads. -/
def packMissing : Failure := .service .pikPak "'My Pack' folder missing"

/-- What a look-up by name says if it finds no folder of downloads. -/
def packNotFound : Failure := .notFound ("folder not found: " ++ packName)

/-- The first entry on the first page of the root that has the name, whatever it is. -/
def firstNamed (root : Contents File) : Except Halt File :=
  match (root.pages.headD []).find? (·.name = packName) with
  | some file => .ok file
  | none => .error (.failure packMissing)

/-- The first folder on any page of the root that has the name. -/
def firstPack (root : Contents File) : Except Halt DriveItem :=
  match root.entries.find? File.isPack with
  | some folder => .ok folder.driveItem
  | none => .error (.failure packNotFound)

/-- Whether the store uses the folder that a look-up by name finds, and misses it only if that finds
none. -/
structure AgreesWithLookup (used : Except Halt File) (looked : Except Halt DriveItem) : Prop where
  found : ∀ folder, used = .ok folder → looked = .ok folder.driveItem
  missed : used = .error (.failure packMissing) → looked = .error (.failure packNotFound)

/-- Whether the first page of the root tells which folder is the folder of downloads: the first
entry with its name is a folder, or else no page has such a folder. -/
def FirstPageTells (root : Contents File) : Prop :=
  match (root.pages.headD []).find? (·.name = packName) with
  | some file => file.isFolder = true
  | none => ∀ file ∈ root.entries, ¬ (file.isFolder = true ∧ file.name = packName)

/-- The files in a folder, unless the drive fails to list them. -/
def filesIn (contents : String → Contents File) (folder : File) : Except Halt (List File) :=
  Action.resultOf ((contents folder.id).selected fun files => files)

theorem isPack_iff {file : File} :
    file.isPack = true ↔ file.isFolder = true ∧ file.name = packName := by
  simp [File.isPack]

theorem mem_entries_of_firstNamed {root : Contents File} {file : File}
    (first : firstNamed root = .ok file) : file ∈ root.entries := by
  obtain ⟨pages, fault⟩ := root
  unfold firstNamed at first
  cases pages with
  | nil => cases first
  | cons page pages =>
      cases found : page.find? (·.name = packName) with
      | none => rw [List.headD_cons, found] at first; cases first
      | some other =>
          rw [List.headD_cons, found] at first
          cases first
          exact Contents.entries_cons ▸
            List.mem_append_left _ (List.mem_of_find?_eq_some found)

theorem isFolderNamed_driveItem (file : File) :
    DriveBrowser.isFolderNamed packName file.driveItem = file.isPack := by
  unfold DriveBrowser.isFolderNamed DriveItem.isFolder File.isPack File.driveItem
  cases file.isFolder <;> simp [beq_eq_decide]

/-- A folder that is the first entry with the name is also the first folder with it. -/
theorem find?_isPack_of_folder {files : List File} {folder : File}
    (first : files.find? (·.name = packName) = some folder) (isFolder : folder.isFolder = true) :
    files.find? File.isPack = some folder := by
  obtain ⟨named, before, after, rfl, others⟩ := List.find?_eq_some_iff_append.mp first
  refine List.find?_eq_some_iff_append.mpr ⟨?_, before, after, rfl, ?_⟩
  · exact isPack_iff.mpr ⟨isFolder, by simpa using named⟩
  · intro file member
    have differs : ¬ file.name = packName := by simpa using others file member
    rw [Bool.not_eq_true', ← Bool.not_eq_true, isPack_iff]
    exact fun pack => differs pack.2

/-- Once the folder of downloads is found, all of its pages are read. -/
theorem gives_packFiles_of_folder {World : Type} {steady : World → Prop} {drive : Drive World}
    {key : String} {folder : File} {answers : Option String → Outcome FileList}
    {contents : Contents File} (chosen : (drive.packFolder key).Gives steady (.ok folder))
    (listed : ∀ token, (drive.api.listFiles key (FileFilter.completed folder.id token)).Gives steady
      (Action.resultOf (answers token)))
    (finite : Contents.Follow answers FileList.next? FileList.files none contents)
    (enough : contents.requests ≤ drive.pageBudget) :
    (drive.packFiles key).Gives steady
      (Action.resultOf (contents.selected fun files => files)) := by
  have fetched : ∀ (asked : List (Option String)) token,
      (drive.api.listFiles key (FileFilter.completed folder.id token)).Leads steady steady
        (Action.resultOf (answers token)) := fun _ => listed
  refine chosen.bind_ok ?_
  exact leads_overPages fetched (fun files => files) (fun _ _ => rfl) finite enough []

section Folders

variable {World : Type} {steady : World → Prop} {drive : Drive World} {caller : Caller World}
  {key : String} {answers : String → Option String → Outcome FileList}
  {contents : String → Contents File}
  (listed : ∀ filter, (drive.api.listFiles key filter).Gives steady
    (Action.resultOf (answers filter.parentId filter.pageToken)))
  (finite : ∀ folderId, Contents.Follow (answers folderId) FileList.next? FileList.files none
    (contents folderId))

include listed finite

theorem gives_packFolder (answered : (contents "").fault = none) :
    (drive.packFolder key).Gives steady (firstNamed (contents "")) := by
  have asked : (drive.api.listFiles key (FileFilter.completed "" none)).Gives steady
      (Action.resultOf (answers "" none)) := listed _
  have root := finite ""
  have chosen : ∀ list : FileList, (match list.files.find? (·.name = packName) with
      | some folder => pure folder
      | none => Action.fail packMissing : Action World File).Gives steady
        (match list.files.find? (·.name = packName) with
          | some folder => .ok folder
          | none => .error (.failure packMissing)) := by
    intro list
    cases list.files.find? (·.name = packName) with
    | some folder => exact Action.leads_pure folder
    | none => exact Action.leads_fail packMissing
  cases shown : contents "" with
  | mk pages fault =>
      rw [shown] at root answered
      cases root with
      | fault failed => cases answered
      | last list given _ =>
          rw [given] at asked
          exact asked.bind_ok (chosen list)
      | more list given _ _ =>
          rw [given] at asked
          exact asked.bind_ok (chosen list)

theorem gives_folderByName (account : caller.apiKeyOr drive.apiKey = .ok key)
    (active : ∀ world, steady world → caller.isCancelled world = false)
    (answered : (contents "").fault = none) {budget : Nat}
    (enough : (contents "").requests ≤ budget) :
    ((drive.allowing budget).browser.folderByName caller "" packName).Gives steady
      (firstPack (contents "")) := by
  have fetched : ∀ (asked : List (Option String)) token,
      ((drive.allowing budget).browser.fetch caller
        { FileQuery.page "" token with kind := some .folder }).Leads steady steady
          (Action.resultOf ((answers "" token).map drivePage)) := by
    intro asked token
    rw [Action.resultOf_map]
    refine Action.Leads.check_bind active ((gives_keyOf budget account).bind_ok ?_)
    exact (listed _).bind fun list => Action.leads_pure (drivePage list)
  have pages : Contents.Follow (fun token => (answers "" token).map drivePage) DrivePage.next
      DrivePage.files none ((contents "").map File.driveItem) :=
    (finite "").map next_drivePage fun _ => rfl
  have few : ((contents "").map File.driveItem).requests ≤ budget := by
    simpa [Contents.requests, Contents.map] using enough
  have searched := leads_searchPages fetched
    (DriveBrowser.isFolderNamed packName) pages few []
  have same : DriveBrowser.isFolderNamed packName ∘ File.driveItem = File.isPack :=
    funext isFolderNamed_driveItem
  rw [Contents.sought, Contents.entries_map, List.find?_map, same] at searched
  rw [show ((contents "").map File.driveItem).fault = none from answered] at searched
  unfold firstPack
  cases found : (contents "").entries.find? File.isPack with
  | some folder =>
      rw [found] at searched
      exact Action.Leads.bind_ok searched (Action.leads_pure folder.driveItem)
  | none =>
      rw [found] at searched
      exact Action.Leads.bind_ok searched (Action.leads_fail packNotFound)

theorem gives_packFiles {used : Except Halt File} (chosen : (drive.packFolder key).Gives steady used)
    {budget : Nat} (enough : ∀ folder, used = .ok folder → (contents folder.id).requests ≤ budget) :
    ((drive.allowing budget).packFiles key).Gives steady (used >>= filesIn contents) := by
  cases used with
  | error halt => exact chosen.bind_error
  | ok folder =>
      have used : ((drive.allowing budget).packFolder key).Gives steady (.ok folder) := chosen
      exact gives_packFiles_of_folder used (fun token => listed _) (finite folder.id)
        (enough folder rfl)

end Folders

theorem agreesWithLookup_iff (root : Contents File) :
    AgreesWithLookup (firstNamed root) (firstPack root) ↔ FirstPageTells root := by
  unfold firstNamed firstPack FirstPageTells
  cases first : (root.pages.headD []).find? (·.name = packName) with
  | none =>
      cases found : root.entries.find? File.isPack with
      | none =>
          refine iff_of_true ⟨fun _ given => (by cases given), fun _ => rfl⟩ ?_
          intro file member pack
          exact List.find?_eq_none.mp found file member (isPack_iff.mpr pack)
      | some folder =>
          refine iff_of_false (fun agrees => nomatch agrees.missed rfl) fun none => ?_
          exact none folder (List.mem_of_find?_eq_some found)
            (isPack_iff.mp (List.find?_some found))
  | some file =>
      dsimp only
      constructor
      · intro agrees
        have looked := agrees.found file rfl
        -- A look-up gives nothing but folders, and every file is shown as what it is.
        cases found : root.entries.find? File.isPack with
        | none => rw [found] at looked; cases looked
        | some folder =>
            rw [found] at looked
            have isFolder := (isPack_iff.mp (List.find?_some found)).1
            have same := congrArg DriveItem.isFolder (Except.ok.inj looked)
            unfold DriveItem.isFolder File.driveItem at same
            rw [isFolder] at same
            cases kind : file.isFolder with
            | true => rfl
            | false => rw [kind] at same; simp at same
      · intro isFolder
        have onFirst := find?_isPack_of_folder first isFolder
        have found : root.entries.find? File.isPack = some file := by
          obtain ⟨pages, fault⟩ := root
          cases pages with
          | nil => cases first
          | cons page pages =>
              have onPage : page.find? File.isPack = some file := onFirst
              rw [Contents.entries_cons, List.find?_append, onPage]
              rfl
        rw [found]
        refine ⟨fun folder given => ?_, fun missed => by cases missed⟩
        rw [Except.ok.inj given]

/-- The store takes the first entry with the name of the folder of downloads on the first page of
the root, for its listings as well as for looking up items that are there already.  A look-up by name
gives the first folder of this name on any page.  So they agree exactly if the entry on the first
page is a folder or, where that page has none of this name, no page has such a folder. -/
theorem packFolder_on_first_page {World : Type} (drive : Drive World) (caller : Caller World)
    (key : String) (steady : World → Prop)
    (answers : String → Option String → Outcome FileList) (contents : String → Contents File)
    (budget : Nat) (account : caller.apiKeyOr drive.apiKey = .ok key)
    (active : ∀ world, steady world → caller.isCancelled world = false)
    (listed : ∀ filter, (drive.api.listFiles key filter).Gives steady
      (Action.resultOf (answers filter.parentId filter.pageToken)))
    (finite : ∀ folderId, Contents.Follow (answers folderId) FileList.next? FileList.files none
      (contents folderId))
    (answered : (contents "").fault = none) (enoughForRoot : (contents "").requests ≤ budget)
    (enough : ∀ folder ∈ (contents "").entries, (contents folder.id).requests ≤ budget)
    (world : World) (isSteady : steady world) :
    let used := ((drive.packFolder key).runOn world).1
    let looked :=
      (((drive.allowing budget).browser.folderByName caller "" packName).runOn world).1
    used = firstNamed (contents "") ∧ looked = firstPack (contents "") ∧
    (AgreesWithLookup used looked ↔ FirstPageTells (contents "")) ∧
    (((drive.allowing budget).fetchListing key).runOn world).1 = (do
      let folder ← used
      let files ← filesIn contents folder
      return files.filterMap Drive.summary?) ∧
    ∀ hash, (((drive.allowing budget).fileOfHash? key hash).runOn world).1 = (do
      let folder ← used
      let files ← filesIn contents folder
      return files.find? (Drive.comesFrom hash)) := by
  have chosen := gives_packFolder listed finite answered
  have searched := gives_folderByName listed finite account active answered enoughForRoot
  have inRoot : ∀ folder, firstNamed (contents "") = .ok folder →
      (contents folder.id).requests ≤ budget :=
    fun folder first => enough folder (mem_entries_of_firstNamed first)
  have given := gives_packFiles listed finite chosen inRoot
  have used := (chosen world isSteady).1
  have looked := (searched world isSteady).1
  intro usedPack lookedPack
  refine ⟨used, looked, ?_, ?_, fun hash => ?_⟩
  · rw [show usedPack = _ from used, show lookedPack = _ from looked]
    exact agreesWithLookup_iff (contents "")
  · have fetched := (given.bind fun files => Action.leads_pure (files.filterMap Drive.summary?))
      world isSteady
    rw [show usedPack = _ from used, ← bind_assoc]
    exact fetched.1
  · have sought := (given.bind fun files => Action.leads_pure (files.find? (Drive.comesFrom hash)))
      world isSteady
    rw [show usedPack = _ from used, ← bind_assoc]
    exact sought.1

section Roots

/-- The pages of a drive whose root has two of them, and of the folder of downloads in it. -/
def rootAnswers (first second : List File) (folderId : String) (token : Option String) :
    Outcome FileList :=
  if folderId = "" then
    match token with
    | none => .ok ⟨first, "2"⟩
    | some _ => .ok ⟨second, ""⟩
  else if folderId = "pack" then .ok ⟨[boxed "show" folderKind "Show" ""], ""⟩
  else .error (.notFound folderId)

def rootContents (first second : List File) (folderId : String) : Contents File :=
  if folderId = "" then ⟨[first, second], none⟩
  else if folderId = "pack" then ⟨[[boxed "show" folderKind "Show" ""]], none⟩
  else ⟨[], some (.notFound folderId)⟩

theorem follow_rootContents (first second : List File) (folderId : String) :
    Contents.Follow (rootAnswers first second folderId) FileList.next? FileList.files none
      (rootContents first second folderId) := by
  by_cases isRoot : folderId = ""
  · subst isRoot
    let front : FileList := ⟨first, "2"⟩
    let behind : FileList := ⟨second, ""⟩
    exact .more front rfl rfl (.last behind rfl rfl)
  · by_cases isPack : folderId = "pack"
    · subst isPack
      let only : FileList := ⟨[boxed "show" folderKind "Show" ""], ""⟩
      exact .last only rfl rfl
    · rw [rootContents, if_neg isRoot, if_neg isPack]
      refine .fault ?_
      rw [rootAnswers, if_neg isRoot, if_neg isPack]

/-- A drive with two pages of its root. -/
def rootDrive (first second : List File) : Drive Unit :=
  { boxDrive with
    api := { boxDrive.api with
      listFiles := fun _ filter =>
        Action.ofOutcome (rootAnswers first second filter.parentId filter.pageToken) }
    pageBudget := 2 }

def pack : File := boxed "pack" folderKind packName ""

def attic : File := boxed "attic" folderKind "Attic" ""

/-- A plain file with the name of the folder of downloads. -/
def impostor : File := boxed "note" fileKind packName "5"

/-- A folder on the first page is used, whatever has its name behind it. -/
theorem packFolder_on_first_page_behind_attic :
    (boxCaller.apiKeyOr (rootDrive [attic, pack] [impostor]).apiKey = .ok "key" ∧
      (∀ folderId, Contents.Follow (rootAnswers [attic, pack] [impostor] folderId)
        FileList.next? FileList.files none (rootContents [attic, pack] [impostor] folderId)) ∧
      (rootContents [attic, pack] [impostor] "").fault = none ∧
      (rootContents [attic, pack] [impostor] "").requests ≤ 2 ∧
      ∀ folder ∈ (rootContents [attic, pack] [impostor] "").entries,
        (rootContents [attic, pack] [impostor] folder.id).requests ≤ 2) ∧
    (((rootDrive [attic, pack] [impostor]).packFolder "key").runOn ()).1 = .ok pack ∧
    AgreesWithLookup (((rootDrive [attic, pack] [impostor]).packFolder "key").runOn ()).1
      ((((rootDrive [attic, pack] [impostor]).allowing 2).browser.folderByName boxCaller ""
        packName).runOn ()).1 := by
  have few : ∀ folder ∈ (rootContents [attic, pack] [impostor] "").entries,
      (rootContents [attic, pack] [impostor] folder.id).requests ≤ 2 := by decide
  obtain ⟨used, _, agrees, _⟩ := packFolder_on_first_page (rootDrive [attic, pack] [impostor])
    boxCaller "key" (fun _ => True) (rootAnswers [attic, pack] [impostor])
    (rootContents [attic, pack] [impostor]) 2 rfl (fun _ _ => rfl)
    (fun _ => Action.gives_ofOutcome _) (follow_rootContents [attic, pack] [impostor]) rfl
    (by decide) few () trivial
  have tells : FirstPageTells (rootContents [attic, pack] [impostor] "") :=
    show pack.isFolder = true by decide
  exact ⟨⟨rfl, follow_rootContents _ _, rfl, by decide, few⟩, used, agrees.mpr tells⟩

/-- What the store uses, and what a look-up by name finds. -/
def bothWays (drive : Drive Unit) : Except Halt File × Except Halt DriveItem :=
  (((drive.packFolder "key").runOn ()).1,
    ((drive.browser.folderByName boxCaller "" packName).runOn ()).1)

/-- A folder on the second page is missed, and a plain file in front of the folder is taken for
it. -/
theorem packFolder_disagrees :
    (bothWays (rootDrive [attic] [pack]) =
        (.error (.failure packMissing), .ok pack.driveItem) ∧
      (((rootDrive [attic] [pack]).fetchListing "key").runOn ()).1 =
        .error (.failure packMissing) ∧
      ¬ AgreesWithLookup (bothWays (rootDrive [attic] [pack])).1
        (bothWays (rootDrive [attic] [pack])).2) ∧
    bothWays (rootDrive [impostor, pack] []) = (.ok impostor, .ok pack.driveItem) ∧
      (((rootDrive [impostor, pack] []).fetchListing "key").runOn ()).1 =
        .error (.failure (.notFound impostor.id)) ∧
      ¬ AgreesWithLookup (bothWays (rootDrive [impostor, pack] [])).1
        (bothWays (rootDrive [impostor, pack] [])).2 := by
  have late : bothWays (rootDrive [attic] [pack]) =
      (.error (.failure packMissing), .ok pack.driveItem) := rfl
  have wrong : bothWays (rootDrive [impostor, pack] []) = (.ok impostor, .ok pack.driveItem) := rfl
  refine ⟨⟨late, rfl, ?_⟩, wrong, rfl, ?_⟩
  · rw [late]
    intro agrees
    cases agrees.missed rfl
  · rw [wrong]
    intro agrees
    have same := agrees.found impostor rfl
    exact absurd same (by decide)

end Roots

end StoreGate.PikPak
