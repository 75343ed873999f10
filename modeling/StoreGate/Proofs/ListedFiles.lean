import StoreGate.Proofs.PikPak.ItemFiles
import StoreGate.Proofs.PikPak.TreeWalks
import StoreGate.Proofs.Seedr.ItemFiles
/-!
# Links lead back to the files that they were listed for

A file of an item carries its address through the conversion of a listing, the walk over the
folders, the text of a locked link and the reading of that text.  At the end of this way the store
asks its service for the file that the service listed, whichever folder the file lies in, and the
other store refuses the link before it asks its own service for anything.
-/

namespace StoreGate

variable {World Other : Type}

/-- A file of a Seedr item that shows a listed file and leads back to it.  The service numbers its
files with 64 bits. -/
structure Seedr.LeadsBack (drive : Seedr.Drive World) (other : PikPak.Drive Other)
    (file : ItemFile) (found : List String × Seedr.File) : Prop where
  name : file.name = found.2.name
  path : file.path = pathOf (found.1 ++ [found.2.name])
  size : file.size = found.2.size
  resolves : found.2.id < bitLimit 64 →
    ∀ user, drive.resolve user file.link = drive.linkOf user found.2.id
  foreign : ∃ reason, ∀ user, other.resolve user file.link = Action.fail (.invalidLink reason)

/-- A file of a PikPak item that shows a listed file and leads back to it, as far as a link can tell
the identifiers of the two apart. -/
structure PikPak.LeadsBack (drive : PikPak.Drive Other) (other : Seedr.Drive World)
    (itemId : String) (file : ItemFile) (found : List String × PikPak.File) : Prop where
  name : file.name = found.2.name
  path : file.path = pathOf (found.1 ++ [found.2.name])
  size : file.size = found.2.sizeInBytes
  resolves : itemId ≠ "" → ':' ∉ itemId.toList → found.2.id ≠ "" →
    ∀ user, drive.resolve user file.link = drive.linkOf user found.2.id
  foreign : ∃ reason, ∀ user, other.resolve user file.link = Action.fail (.invalidLink reason)

theorem Seedr.leadsBack_fileOf (drive : Seedr.Drive World) (other : PikPak.Drive Other)
    {itemId : String} {folderId : Nat} (isNumber : Seedr.readId? itemId = some folderId)
    (found : List String × Seedr.File) :
    Seedr.LeadsBack drive other (Seedr.Drive.fileOf itemId found) found where
  name := rfl
  path := (pathOf_append found.1 found.2.name).symm
  size := rfl
  resolves := fun small => drive.resolve_encode (Seedr.readable_of_readId? isNumber) small
  foreign := other.resolve_foreign (by decide) _

theorem PikPak.leadsBack_fileOf (drive : PikPak.Drive Other) (other : Seedr.Drive World)
    (itemId : String) (found : List String × PikPak.File) :
    PikPak.LeadsBack drive other itemId (PikPak.Drive.fileOf itemId found) found where
  name := rfl
  path := (pathOf_append found.1 found.2.name).symm
  size := rfl
  resolves := fun root undivided file => drive.resolve_encode ⟨root, undivided, file⟩
  foreign := other.resolve_foreign (by decide) _

/-- Whenever a store gives an item, its files are the files that the service lists for it, one for
one and in the same order, and the link of each makes the store ask for the file that was listed.
The other store refuses the links without asking for anything. -/
theorem links_lead_back (seedr : Seedr.Drive World) (pikPak : PikPak.Drive Other) :
    (∀ caller id world item after, (seedr.item caller id).runOn world = (.ok item, after) →
      ∃ found, (seedr.listed caller id).runOn world = (.ok found, after) ∧
        List.Forall₂ (Seedr.LeadsBack seedr pikPak) item.files found) ∧
    ∀ caller id world item after, (pikPak.item caller id).runOn world = (.ok item, after) →
      ∃ found, (pikPak.listed caller id).runOn world = (.ok found, after) ∧
        List.Forall₂ (PikPak.LeadsBack pikPak seedr item.id) item.files found := by
  constructor
  · intro caller id world item after gave
    obtain ⟨found, listed, ⟨folderId, isNumber⟩, files⟩ := Seedr.Drive.files_of_item gave
    refine ⟨found, listed, ?_⟩
    rw [files, List.forall₂_map_left_iff]
    exact List.forall₂_same.mpr fun entry _ => Seedr.leadsBack_fileOf seedr pikPak isNumber entry
  · intro caller id world item after gave
    obtain ⟨found, listed, files⟩ := PikPak.Drive.files_of_item gave
    refine ⟨found, listed, ?_⟩
    rw [files, List.forall₂_map_left_iff]
    exact List.forall₂_same.mpr fun entry _ => PikPak.leadsBack_fileOf pikPak seedr item.id entry

section Shelf

/-- A folder with a file, and another folder with a file below it. -/
def shelfContents (folderId : Nat) : Outcome Seedr.Contents :=
  if folderId = 42 then .ok ⟨some 42, "Shelf", "", [⟨7, "Extra", 5, ""⟩], [⟨3, "Film", 9⟩]⟩
  else if folderId = 7 then .ok ⟨some 7, "Extra", "", [], [⟨4, "Song", 5⟩]⟩
  else .error (.notFound (toString folderId))

def shelf : Seedr.Drive Unit where
  api := {
    root := fun _ => Action.fail (.network "connection reset")
    folder := fun _ folderId => Action.ofOutcome (shelfContents folderId)
    file := fun _ fileId => pure ⟨"Song", "https://files.example/" ++ toString fileId⟩
    account := fun _ => Action.fail (.network "connection reset") }
  clock := ⟨fun _ => 0, fun _ => Timestamp.epoch, fun _ world => world⟩
  apiKey := some "key"
  listing := ⟨.seedr, Listing.standardLifetime⟩
  pageBudget := 1

/-- The songs lie one folder further down, and their links lead back to them. -/
theorem links_lead_back_songs :
    (∃ item, (shelf.item PikPak.boxCaller "42").runOn () = (.ok item, ()) ∧
      ∃ film song, item.files = [film, song] ∧ song.path = "/Extra/Song" ∧
        ∀ user, shelf.resolve user song.link = shelf.linkOf user 4) ∧
    ∃ item, ((PikPak.boxDrive.allowing 2).item PikPak.boxCaller "box").runOn () = (.ok item, ()) ∧
      ∃ film song note, item.files = [film, song, note] ∧ song.path = "/Extra/Song" ∧
        ∀ user, (PikPak.boxDrive.allowing 2).resolve user song.link =
          (PikPak.boxDrive.allowing 2).linkOf user "song" := by
  have onShelf : (shelf.listed PikPak.boxCaller "42").runOn () =
      (.ok [([], ⟨3, "Film", 9⟩), (["Extra"], ⟨4, "Song", 5⟩)], ()) := rfl
  have inBox : ((PikPak.boxDrive.allowing 2).listed PikPak.boxCaller "box").runOn () =
      (.ok [([], PikPak.boxed "film" PikPak.fileKind "Film" "7"),
        (["Extra"], PikPak.boxed "song" PikPak.fileKind "Song" "5"),
        ([], PikPak.boxed "note" PikPak.fileKind "Note" "x")], ()) := rfl
  constructor
  · obtain ⟨item, gave⟩ : ∃ item, (shelf.item PikPak.boxCaller "42").runOn () = (.ok item, ()) :=
      ⟨_, rfl⟩
    obtain ⟨found, listed, same⟩ := (links_lead_back shelf (PikPak.boxDrive.allowing 2)).1
      PikPak.boxCaller "42" () item () gave
    rw [onShelf] at listed
    cases listed
    obtain ⟨film, _, _, others, files⟩ := List.forall₂_cons_right_iff.mp same
    obtain ⟨song, _, leads, none, rfl⟩ := List.forall₂_cons_right_iff.mp others
    cases none
    exact ⟨item, gave, film, song, files, leads.path, leads.resolves (by decide)⟩
  · obtain ⟨item, gave, named⟩ : ∃ item, ((PikPak.boxDrive.allowing 2).item PikPak.boxCaller
        "box").runOn () = (.ok item, ()) ∧ item.id = "box" := ⟨_, rfl, rfl⟩
    obtain ⟨found, listed, same⟩ := (links_lead_back shelf (PikPak.boxDrive.allowing 2)).2
      PikPak.boxCaller "box" () item () gave
    rw [inBox] at listed
    rw [named] at same
    cases listed
    obtain ⟨film, _, _, others, files⟩ := List.forall₂_cons_right_iff.mp same
    obtain ⟨song, _, leads, last, rfl⟩ := List.forall₂_cons_right_iff.mp others
    obtain ⟨note, _, _, none, rfl⟩ := List.forall₂_cons_right_iff.mp last
    cases none
    exact ⟨item, gave, film, song, note, files, leads.path,
      leads.resolves (by decide) (by decide) (by decide)⟩

end Shelf

end StoreGate
