import StoreGate.PikPak.Store
import StoreGate.Proofs.Drive.Browsing
import StoreGate.Proofs.Drive.Flattening
/-!
# The two walks over a PikPak drive agree

The files of an item and the files below its folder are found by different walks, which ask the
service in different ways.  Both follow the same unfolded tree, so they find the same files in the
same order, or fail at the same place, unless the sizes of an item's files overflow.
-/

namespace StoreGate

namespace PikPak

variable {World : Type} {steady : World → Prop} {drive : Drive World} {caller : Caller World}
  {key id : String} {folder : File} {answers : String → Option String → Outcome FileList}
  {contents : String → Contents File}

/-- The identifier and the name of a file that is a folder. -/
def File.folder? (file : File) : Option (String × String) :=
  if file.isFolder then some (file.id, file.name) else none

theorem folder?_entryOf (file : File) : (Drive.entryOf file).folder? = file.folder? := by
  unfold Drive.entryOf File.folder?
  split <;> rfl

theorem folder?_driveItem (file : File) : file.driveItem.folder? = file.folder? := by
  unfold DriveItem.folder? DriveItem.isFolder File.driveItem File.folder?
  cases file.isFolder <;> rfl

/-- The store with another number of pages that a folder may have. -/
def Drive.allowing (drive : Drive World) (pageBudget : Nat) : Drive World :=
  { drive with pageBudget }

/-- A page as flattening sees it. -/
def folderPage (list : FileList) : FolderPage := ⟨list.files.map Drive.entryOf, list.next?⟩

/-- A page as a browser sees it. -/
def drivePage (list : FileList) : DrivePage :=
  DrivePage.make (list.files.map File.driveItem) (some list.nextToken)

theorem next?_folderPage (list : FileList) : (folderPage list).next? = list.next? := by
  unfold folderPage FolderPage.next? FileList.next?
  cases empty : list.nextToken.isEmpty <;> simp [empty]

theorem next_drivePage (list : FileList) : (drivePage list).next = list.next? := by
  unfold drivePage DrivePage.make FileList.next?
  cases empty : list.nextToken.isEmpty <;> simp only [Option.filter_some, empty] <;> rfl

theorem gives_keyOf (budget : Nat) (account : caller.apiKeyOr drive.apiKey = .ok key) :
    ((drive.allowing budget).keyOf caller).Gives steady (.ok key) := by
  have same : caller.apiKeyOr (drive.allowing budget).apiKey = .ok key := account
  rw [Drive.keyOf, same]
  exact Action.leads_pure key

section Walks

variable (active : ∀ world, steady world → caller.isCancelled world = false)
  (listed : ∀ key filter, (drive.api.listFiles key filter).Gives steady
    (Action.resultOf (answers filter.parentId filter.pageToken)))
  (finite : ∀ folderId, Contents.Follow (answers folderId) FileList.next? FileList.files none
    (contents folderId))
  {budget : Nat}
  (enough : pageRequests File.folder? contents (folderLevels + 1) folder.id ≤ budget)

/-- What lies below a folder of the drive. -/
def filesBelow (contents : String → Contents File) (folderId : String) : List (Sight File) :=
  folderTree File.folder? contents (folderLevels + 1) [] folderId

/-- What lies below a folder, as flattening meets it. -/
def entriesBelow (contents : String → Contents File) (folderId : String) :
    List (Sight FolderEntry) :=
  (filesBelow contents folderId).map (Sight.map Drive.entryOf)

include active listed finite enough

theorem gives_flattening (key : String) :
    (Flatten.run (drive.folders key) .pikPak folder.id caller budget).Gives steady
      (Flatten.outcome .pikPak folder.id (entriesBelow contents folder.id)) := by
  have answered : ∀ folderId token, (drive.folders key folderId token).Gives steady
      (Action.resultOf ((answers folderId token).map folderPage)) := by
    intro folderId token
    rw [Action.resultOf_map]
    exact (listed key _).bind fun list => Action.leads_pure (folderPage list)
  rw [entriesBelow, filesBelow, ← folderTree_map folder?_entryOf]
  rw [← pageRequests_map folder?_entryOf] at enough
  exact Flatten.gives_run .pikPak folder.id active answered
    (fun folderId => (finite folderId).map next?_folderPage fun _ => rfl) enough

theorem gives_browsing (account : caller.apiKeyOr drive.apiKey = .ok key) :
    ((drive.allowing budget).browser.listFlat caller folder.id).Gives steady
      (verdict (tooDeep folder.id)
        (fun place file => DriveBrowser.shownItem true place file.driveItem)
        (filesBelow contents folder.id)) := by
  have answered : ∀ folderId token, ((drive.allowing budget).browser.listFiles caller
      (FileQuery.page folderId token)).Gives steady
        (Action.resultOf ((answers folderId token).map drivePage)) := by
    intro folderId token
    rw [Action.resultOf_map]
    exact (gives_keyOf budget account).bind_ok
      ((listed key _).bind fun list => Action.leads_pure (drivePage list))
  rw [filesBelow, ← verdict_map, ← folderTree_map folder?_driveItem]
  rw [← pageRequests_map folder?_driveItem] at enough
  exact DriveBrowser.gives_walk folder.id true active answered
    (fun folderId => (finite folderId).map next_drivePage fun _ => rfl) [] folder.id enough

/-- The item that a complete folder is, with its files. -/
def folderItem (folder : File) (flat : Flattened) : Item :=
  ⟨folder.id, folder.name, Drive.hashOf folder.sourceUrl, "", flat.size, .downloaded, flat.files,
    folder.addedAt⟩

theorem gives_item (account : caller.apiKeyOr drive.apiKey = .ok key)
    (described : (drive.api.file key id).Gives steady (.ok folder))
    (isFolder : folder.isFolder = true) (isComplete : folder.isComplete = true) :
    ((drive.allowing budget).item caller id).Gives steady
      ((Flatten.outcome .pikPak folder.id (entriesBelow contents folder.id)).map
        (folderItem folder)) := by
  refine (gives_keyOf budget account).bind_ok (described.bind_ok ?_)
  rw [Drive.itemOf, isComplete, isFolder]
  dsimp only
  rw [if_neg (by decide), if_pos rfl]
  exact (gives_flattening active listed finite enough key).map (folderItem folder)

end Walks

/-- Whether a file of an item is a file of the drive, found at the same place. -/
structure IsSameFile (rootId : String) (file : ItemFile) (item : DriveItem) : Prop where
  path : file.path = item.path
  name : file.name = item.name
  size : file.size = item.size
  link : file.link = LockedLink.encode .pikPak ⟨rootId, item.id⟩

theorem isSameFile_of_shown (rootId : String) (place : List String) (file : File) :
    List.Forall₂ (IsSameFile rootId)
      (Flatten.shownFile .pikPak rootId place (Drive.entryOf file))
      (DriveBrowser.shownItem true place file.driveItem) := by
  unfold Drive.entryOf DriveBrowser.shownItem DriveItem.isFolder File.driveItem
  cases file.isFolder with
  | true => exact .nil
  | false =>
      refine .cons ⟨?_, rfl, rfl, rfl⟩ .nil
      exact (pathOf_append place file.name).symm

theorem outcome_agrees (contents : String → Contents File) (folder : File)
    (small : Flatten.knownSize (Flatten.filesMet .pikPak folder.id
      (entriesBelow contents folder.id)) < bitLimit 63) :
    (∃ flat found, Flatten.outcome .pikPak folder.id (entriesBelow contents folder.id) = .ok flat ∧
      verdict (tooDeep folder.id) (fun place file => DriveBrowser.shownItem true place
        file.driveItem) (filesBelow contents folder.id) = .ok found ∧
      List.Forall₂ (IsSameFile folder.id) flat.files found) ∨
    ∃ failure, Flatten.outcome .pikPak folder.id (entriesBelow contents folder.id) =
        .error (.failure failure) ∧
      verdict (tooDeep folder.id) (fun place file => DriveBrowser.shownItem true place
        file.driveItem) (filesBelow contents folder.id) = .error (.failure failure) := by
  rw [Flatten.outcome_eq_verdict small, entriesBelow, verdict_map]
  obtain ⟨files, found, flat, browse, same⟩ | ⟨failure, flat, browse⟩ :=
    verdict_agree (tooDeep folder.id) (isSameFile_of_shown folder.id)
      (filesBelow contents folder.id)
  · rw [flat, browse]
    exact Or.inl ⟨_, found, rfl, rfl, same⟩
  · rw [flat, browse]
    exact Or.inr ⟨failure, rfl, rfl⟩

/-- An item that is a folder and the flat list of what lies below the folder show the same files in
the same order, each at the same path with the same name and size and under the locked link of the
folder and its own identifier, or they fail in the same way.  Only if the sizes of the files that
are met overflow, there is no item. -/
theorem item_agrees_with_listFlat {World : Type} (drive : Drive World) (caller : Caller World)
    (steady : World → Prop) (key id : String) (folder : File)
    (answers : String → Option String → Outcome FileList) (contents : String → Contents File)
    (account : caller.apiKeyOr drive.apiKey = .ok key)
    (active : ∀ world, steady world → caller.isCancelled world = false)
    (listed : ∀ key filter, (drive.api.listFiles key filter).Gives steady
      (Action.resultOf (answers filter.parentId filter.pageToken)))
    (finite : ∀ folderId, Contents.Follow (answers folderId) FileList.next? FileList.files none
      (contents folderId))
    (described : (drive.api.file key id).Gives steady (.ok folder))
    (isFolder : folder.isFolder = true) (isComplete : folder.isComplete = true) :
    ∃ least, ∀ budget, least ≤ budget → ∀ first second, steady first → steady second →
      if Flatten.knownSize (Flatten.filesMet .pikPak folder.id
          (entriesBelow contents folder.id)) < bitLimit 63 then
        (∃ item found, (((drive.allowing budget).item caller id).runOn first).1 = .ok item ∧
          (((drive.allowing budget).browser.listFlat caller folder.id).runOn second).1 =
            .ok found ∧
          List.Forall₂ (IsSameFile folder.id) item.files found) ∨
        ∃ failure,
          (((drive.allowing budget).item caller id).runOn first).1 = .error (.failure failure) ∧
          (((drive.allowing budget).browser.listFlat caller folder.id).runOn second).1 =
            .error (.failure failure)
      else (((drive.allowing budget).item caller id).runOn first).1 = .error .overflow := by
  refine ⟨pageRequests File.folder? contents (folderLevels + 1) folder.id,
    fun budget enough first second isSteady isSteadyToo => ?_⟩
  have told := gives_item active listed finite enough account described isFolder isComplete
  have browsed := gives_browsing active listed finite enough account
  rw [(told first isSteady).1, (browsed second isSteadyToo).1]
  split
  · rename_i small
    obtain ⟨flat, found, told, browsed, same⟩ | ⟨failure, told, browsed⟩ :=
      outcome_agrees contents folder small
    · rw [told, browsed]
      exact Or.inl ⟨folderItem folder flat, found, rfl, rfl, same⟩
    · rw [told, browsed]
      exact Or.inr ⟨failure, rfl, rfl⟩
  · rename_i large
    rw [Flatten.outcome, if_neg large]
    rfl

section Box

/-- A complete file or folder of a given size. -/
def boxed (id kind name size : String) : File :=
  ⟨id, kind, name, size, completePhase, "", "", "", "", "", "", [], ""⟩

def box : File := boxed "box" folderKind "Box" ""

/-- A drive with a folder of two pages, of which the second one lists another folder. -/
def boxAnswers (folderId : String) (token : Option String) : Outcome FileList :=
  if folderId = "box" then
    match token with
    | none => .ok ⟨[boxed "film" fileKind "Film" "7"], "2"⟩
    | some _ => .ok ⟨[boxed "extra" folderKind "Extra" "", boxed "note" fileKind "Note" "x"], ""⟩
  else if folderId = "extra" then .ok ⟨[boxed "song" fileKind "Song" "5"], ""⟩
  else .error (.notFound folderId)

def boxContents (folderId : String) : Contents File :=
  if folderId = "box" then
    ⟨[[boxed "film" fileKind "Film" "7"],
      [boxed "extra" folderKind "Extra" "", boxed "note" fileKind "Note" "x"]], none⟩
  else if folderId = "extra" then ⟨[[boxed "song" fileKind "Song" "5"]], none⟩
  else ⟨[], some (.notFound folderId)⟩

theorem follow_boxContents (folderId : String) :
    Contents.Follow (boxAnswers folderId) FileList.next? FileList.files none
      (boxContents folderId) := by
  by_cases isBox : folderId = "box"
  · subst isBox
    let first : FileList := ⟨[boxed "film" fileKind "Film" "7"], "2"⟩
    let second : FileList :=
      ⟨[boxed "extra" folderKind "Extra" "", boxed "note" fileKind "Note" "x"], ""⟩
    exact .more first rfl rfl (.last second rfl rfl)
  · by_cases isExtra : folderId = "extra"
    · subst isExtra
      let only : FileList := ⟨[boxed "song" fileKind "Song" "5"], ""⟩
      exact .last only rfl rfl
    · rw [boxContents, if_neg isBox, if_neg isExtra]
      refine .fault ?_
      rw [boxAnswers, if_neg isBox, if_neg isExtra]

def boxDrive : Drive Unit where
  api := {
    listFiles := fun _ filter => Action.ofOutcome (boxAnswers filter.parentId filter.pageToken)
    file := fun _ _ => pure box
    addUrl := fun _ _ => Action.fail (.network "connection reset")
    listTasks := fun _ _ => pure []
    trash := fun _ _ => pure ()
    account := fun _ => Action.fail (.network "connection reset")
    membership := fun _ => Action.fail (.network "connection reset") }
  clock := ⟨fun _ => 0, fun _ => Timestamp.epoch, fun _ world => world⟩
  apiKey := some "key"
  policy := PollPolicy.standard
  listing := ⟨.pikPak, Listing.standardLifetime⟩
  availability := Availability.unknown
  pageBudget := 1

/-- A caller that the drive belongs to. -/
def boxCaller : Caller Unit := ⟨none, none, fun _ => false⟩

/-- The box is walked in both ways. -/
theorem item_agrees_with_listFlat_box :
    (boxCaller.apiKeyOr boxDrive.apiKey = .ok "key" ∧
      (∀ folderId, Contents.Follow (boxAnswers folderId) FileList.next? FileList.files none
        (boxContents folderId)) ∧ box.isFolder = true ∧ box.isComplete = true) ∧
    ∃ least, ∀ budget, least ≤ budget →
      (∃ item found,
        (((boxDrive.allowing budget).item boxCaller "box").runOn ()).1 = .ok item ∧
        (((boxDrive.allowing budget).browser.listFlat boxCaller "box").runOn ()).1 = .ok found ∧
        List.Forall₂ (IsSameFile "box") item.files found) ∨
      ∃ failure,
        (((boxDrive.allowing budget).item boxCaller "box").runOn ()).1 =
          .error (.failure failure) ∧
        (((boxDrive.allowing budget).browser.listFlat boxCaller "box").runOn ()).1 =
          .error (.failure failure) := by
  refine ⟨⟨rfl, follow_boxContents, by decide, by decide⟩, ?_⟩
  obtain ⟨least, agree⟩ := item_agrees_with_listFlat boxDrive boxCaller (fun _ => True) "key" "box"
    box boxAnswers boxContents rfl (fun _ _ => rfl) (fun _ _ => Action.gives_ofOutcome _)
    follow_boxContents (Action.leads_pure box) (by decide) (by decide)
  refine ⟨least, fun budget enough => ?_⟩
  have agreed := agree budget enough () () trivial trivial
  rwa [if_pos (by decide)] at agreed

end Box

end PikPak

end StoreGate
