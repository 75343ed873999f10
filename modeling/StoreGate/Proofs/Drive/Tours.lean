import StoreGate.Proofs.Drive.Flattening
import StoreGate.Proofs.Drive.RecursiveListings
/-!
# Tours of a folder

Flattening and browsing read a drive in the same way and differ only in what they make of the
entries.  A tour reads the same pages in the same order, and gives every entry that is met together
with the names of the folders on the way.
-/

namespace StoreGate

/-- How a walk reads a drive. -/
structure Reading (World Entry Page : Type) where
  fetch : String → Option String → Action World Page
  next? : Page → Option String
  entries : Page → List Entry
  /-- The identifier and the name of an entry that is a folder. -/
  folder? : Entry → Option (String × String)
  /-- The failure below the deepest level. -/
  deep : Failure
  /-- The number of pages that a folder may have. -/
  budget : Nat

namespace Reading

variable {World Entry Page α : Type}

/-- The entries below a folder, as many levels down as are left, each under the names of the folders
on the way and right in front of what lies below it. -/
def tour (reading : Reading World Entry Page) :
    (levels : Nat) → (place : List String) → (folderId : String) →
      Action World (List (List String × Entry))
  | 0, _, _ => Action.fail reading.deep
  | levels + 1, place, folderId =>
    Action.overPages (reading.fetch folderId) reading.next?
      (fun page =>
        Action.collect
          (fun entry => do
            let inside ← match reading.folder? entry with
              | none => pure []
              | some (id, name) => tour reading levels (place ++ [name]) id
            return (place, entry) :: inside)
          (reading.entries page))
      reading.budget none

end Reading

namespace Flatten

variable {World : Type}

/-- How flattening reads a drive. -/
def reading (source : FolderSource World) (rootId : String) (caller : Caller World)
    (budget : Nat) : Reading World FolderEntry FolderPage where
  fetch := fetch source caller
  next? := FolderPage.next?
  entries := FolderPage.entries
  folder? := FolderEntry.folder?
  deep := tooDeep rootId
  budget := budget

theorem gather_eq_tour (source : FolderSource World) (store : Store) (rootId : String)
    (caller : Caller World) (budget levels : Nat) (place : List String) (folderId : String) :
    gather source store rootId caller budget levels folderId (pathOf place) =
      List.flatMap (fun met => shownFile store rootId met.1 met.2) <$>
        (reading source rootId caller budget).tour levels place folderId := by
  induction levels generalizing place folderId with
  | zero => rfl
  | succ levels ih =>
      rw [gather, Reading.tour]
      refine Action.overPages_change (fun _ _ => List.flatMap_append)
        (fun page => Action.collect_change List.flatMap_nil (fun _ _ => List.flatMap_append)
          fun entry _ => ?_) _ _
      cases entry with
      | file id name size => rfl
      | folder id name =>
          dsimp only [reading, FolderEntry.folder?]
          rw [← pathOf_append, ih, map_bind]
          rfl

end Flatten

namespace DriveBrowser

variable {World : Type}

/-- How browsing reads a drive. -/
def reading (browser : DriveBrowser World) (caller : Caller World) (rootId : String) :
    Reading World DriveItem DrivePage where
  fetch folderId token := browser.fetch caller (FileQuery.page folderId token)
  next? := DrivePage.next
  entries := DrivePage.files
  folder? := DriveItem.folder?
  deep := tooDeep rootId
  budget := browser.pageBudget

theorem walk_eq_tour (browser : DriveBrowser World) (caller : Caller World) (rootId : String)
    (filesOnly : Bool) (levels : Nat) (place : List String) (folderId : String) :
    browser.walk caller rootId filesOnly levels folderId (pathOf place) =
      List.flatMap (fun met => shownItem filesOnly met.1 met.2) <$>
        (browser.reading caller rootId).tour levels place folderId := by
  induction levels generalizing place folderId with
  | zero => rfl
  | succ levels ih =>
      rw [walk, Reading.tour]
      refine Action.overPages_change (fun _ _ => List.flatMap_append)
        (fun page => Action.collect_change List.flatMap_nil (fun _ _ => List.flatMap_append)
          fun item _ => ?_) _ _
      dsimp only
      rw [← pathOf_append]
      -- The path is put into an item before it is looked at, and does not change its kind.
      have same : ({ item with path := pathOf (place ++ [item.name]) } : DriveItem).isFolder =
          item.isFolder := rfl
      rw [same]
      cases isFolder : item.isFolder with
      | false =>
          have noFolder : (browser.reading caller rootId).folder? item = none :=
            if_neg (ne_true_of_eq_false isFolder)
          rw [noFolder, if_neg Bool.false_ne_true, pure_bind, map_pure, List.flatMap_singleton,
            shownItem_of_file isFolder]
      | true =>
          have folder : (browser.reading caller rootId).folder? item = some (item.id, item.name) :=
            if_pos isFolder
          rw [folder, if_pos rfl, ih, bind_map_left, map_bind]
          refine bind_congr fun inside => ?_
          rw [map_pure, List.flatMap_cons, shownItem_of_folder isFolder]
          cases filesOnly <;> rfl

end DriveBrowser

end StoreGate
