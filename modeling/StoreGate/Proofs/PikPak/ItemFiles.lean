import StoreGate.PikPak.Store
import StoreGate.Proofs.Drive.Surveys
import StoreGate.Proofs.LockedLinkCodec
/-!
# The files of a PikPak item are the listed ones

The files of an item are made from what the service lists below the item's folder, one from each
listed file, or from the item itself if it is a single file.  Resolving a readable link of the store
asks the service for the file that the link was written for.
-/

namespace StoreGate.PikPak.Drive

variable {World : Type}

/-- The drive as a catalog: folders and files are both files of the service. -/
def catalog (drive : Drive World) (key : String) : Catalog World String FileList File where
  list := fun folderId token => drive.api.listFiles key (FileFilter.completed folderId token)
  entries := fun list => list.files.map fun file =>
    if file.isFolder then .inl (file.id, file.name) else .inr file
  next := FileList.next?
  folderId := id
  leafId := File.id
  leafName := File.name
  leafSize := File.sizeInBytes

/-- The files that the service lists for an item, each under the names of the folders on the way. -/
def listed (drive : Drive World) (caller : Caller World) (id : String) :
    Action World (List (List String × File)) := do
  let key ← drive.keyOf caller
  let file ← drive.api.file key id
  if !file.isComplete then return []
  else if file.isFolder then
    (drive.catalog key).survey caller drive.pageBudget (folderLevels + 1) [] file.id
  else return [([], file)]

/-- The file of an item that a listed file becomes. -/
def fileOf (rootId : String) (found : List String × File) : ItemFile :=
  Flatten.fileAt .pikPak rootId (pathOf found.1) found.2.id found.2.name found.2.sizeInBytes

/-- Asks the service for a file, and gives a link that the service offers for it. -/
def linkOf (drive : Drive World) (caller : Caller World) (fileId : String) :
    Action World String := do
  let key ← drive.keyOf caller
  let file ← drive.api.file key fileId
  match (file.mediaUrls ++ [file.contentUrl]).find? (!·.isEmpty) with
  | some url => return url
  | none => Action.fail (.notFound ("No download link for file " ++ file.id))

theorem pageOf_catalog (drive : Drive World) (key : String) (list : FileList) :
    (drive.catalog key).pageOf list = ⟨list.files.map entryOf, list.next?⟩ := by
  unfold Catalog.pageOf catalog
  rw [List.map_map]
  congr 2
  funext file
  rw [Function.comp_apply, entryOf]
  split <;> rfl

theorem folders_tracks (drive : Drive World) (key folderId : String) (token : Option String) :
    (drive.folders key folderId token).Tracks Eq Eq (drive.catalog key).pageOf
      ((drive.catalog key).list folderId token) := by
  rintro world _ rfl page after gave
  obtain ⟨list, between, answered, gave⟩ := Action.runOn_bind_eq_ok_iff.mp gave
  cases gave
  exact ⟨list, after, answered, rfl, (pageOf_catalog drive key list).symm⟩

/-- An item with its files is made from a survey of its folder, or from nothing but itself. -/
theorem files_of_item {drive : Drive World} {caller : Caller World} {id : String}
    {world after : World} {item : Item}
    (gave : (drive.item caller id).runOn world = (.ok item, after)) :
    ∃ found, (drive.listed caller id).runOn world = (.ok found, after) ∧
      item.files = found.map (fileOf item.id) := by
  obtain ⟨key, between, known, gave⟩ := Action.runOn_bind_eq_ok_iff.mp gave
  obtain ⟨file, described, answered, gave⟩ := Action.runOn_bind_eq_ok_iff.mp gave
  -- The list of files goes on from the description of the item as the item itself does.
  suffices rest : ∃ found, ((if !file.isComplete then pure []
      else if file.isFolder then
        (drive.catalog key).survey caller drive.pageBudget (folderLevels + 1) [] file.id
      else pure [([], file)] : Action World (List (List String × File))).runOn described) =
        (.ok found, after) ∧
      item.files = found.map (fileOf item.id) by
    obtain ⟨found, listed, same⟩ := rest
    exact ⟨found, Action.runOn_bind_eq_ok_iff.mpr ⟨key, between, known,
      Action.runOn_bind_eq_ok_iff.mpr ⟨file, described, answered, listed⟩⟩, same⟩
  rw [itemOf] at gave
  cases isComplete : file.isComplete with
  | false =>
      rw [isComplete] at gave
      cases gave
      exact ⟨[], rfl, rfl⟩
  | true =>
      cases isFolder : file.isFolder with
      | false =>
          rw [isComplete, isFolder] at gave
          cases gave
          exact ⟨[([], file)], rfl, rfl⟩
      | true =>
          rw [isComplete, isFolder] at gave
          obtain ⟨flat, _, flattened, gave⟩ := Action.runOn_bind_eq_ok_iff.mp gave
          cases gave
          have sees : ∀ first second : World, first = second →
              caller.isCancelled first = caller.isCancelled second :=
            fun _ _ => congrArg caller.isCancelled
          obtain ⟨found, _, surveyed, rfl, made⟩ := Catalog.gather_tracks_survey _ _ _ sees
            (folders_tracks drive key) (folderLevels + 1) [] file.id rfl
            (Flatten.gathers_of_run flattened)
          exact ⟨found, surveyed, made⟩

theorem resolve_encode (drive : Drive World) {address : LockedLink} (readable : address.IsReadable)
    (user : Caller World) :
    drive.resolve user (LockedLink.encode .pikPak address) = drive.linkOf user address.fileId := by
  rw [resolve, LockedLink.decode_eq_ok_iff.mpr ⟨readable, rfl⟩]
  rfl

/-- A link of another store is refused before anything is asked of the service. -/
theorem resolve_foreign (drive : Drive World) {store : Store} (differ : store ≠ .pikPak)
    (address : LockedLink) : ∃ reason, ∀ user,
      drive.resolve user (LockedLink.encode store address) = Action.fail (.invalidLink reason) := by
  obtain ⟨reason, refused⟩ := LockedLink.decode_foreign differ address
  refine ⟨reason, fun user => ?_⟩
  rw [resolve, refused]
  rfl

end StoreGate.PikPak.Drive
