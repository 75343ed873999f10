import StoreGate.Drive.Browser
import StoreGate.Proofs.Drive.FolderWalks
/-!
# Browsing follows the unfolded tree

The walks of a browser meet what lies below a folder in depth-first order, and give the items that
they meet under their paths, unless they meet a failure first.
-/

namespace StoreGate

/-- The identifier and the name of an item that is a folder. -/
def DriveItem.folder? (item : DriveItem) : Option (String × String) :=
  if item.isFolder then some (item.id, item.name) else none

namespace DriveBrowser

variable {World : Type} {steady : World → Prop} {browser : DriveBrowser World}
  {caller : Caller World} {answers : String → Option String → Outcome DrivePage}
  {contents : String → Contents DriveItem}

/-- What a walk shows of an item, under the names of the folders on the way. -/
def shownItem (filesOnly : Bool) (place : List String) (item : DriveItem) : List DriveItem :=
  if item.isFolder && filesOnly then [] else [{ item with path := pathOf (place ++ [item.name]) }]

theorem shownItem_of_file {filesOnly : Bool} {item : DriveItem} (isFile : item.isFolder = false)
    (place : List String) :
    shownItem filesOnly place item = [{ item with path := pathOf (place ++ [item.name]) }] := by
  rw [shownItem, isFile]
  rfl

theorem shownItem_of_folder {filesOnly : Bool} {item : DriveItem} (isFolder : item.isFolder = true)
    (place : List String) :
    shownItem filesOnly place item =
      if filesOnly then [] else [{ item with path := pathOf (place ++ [item.name]) }] := by
  rw [shownItem, isFolder]
  rfl

theorem gives_walk (rootId : String) (filesOnly : Bool)
    (active : ∀ world, steady world → caller.isCancelled world = false)
    (answered : ∀ folderId token, (browser.listFiles caller (FileQuery.page folderId token)).Gives
      steady (Action.resultOf (answers folderId token)))
    (finite : ∀ folderId, Contents.Follow (answers folderId) DrivePage.next DrivePage.files none
      (contents folderId))
    {levels : Nat} (place : List String) (folderId : String)
    (enough : pageRequests DriveItem.folder? contents levels folderId ≤ browser.pageBudget) :
    (browser.walk caller rootId filesOnly levels folderId (pathOf place)).Gives steady
      (verdict (tooDeep rootId) (shownItem filesOnly)
        (folderTree DriveItem.folder? contents levels place folderId)) := by
  induction levels generalizing place folderId with
  | zero => exact Action.leads_fail (tooDeep rootId)
  | succ levels ih =>
      rw [walk, folderTree]
      refine gives_overPages place (finite folderId)
        (fun token => (answered folderId token).check_bind active) (fun item member => ?_)
        (Nat.le_trans (Nat.le_add_right _ _) enough)
      dsimp only
      rw [← pathOf_append]
      cases isFolder : item.isFolder with
      | false =>
          have isFile : ¬ ({ item with path := pathOf (place ++ [item.name]) } :
              DriveItem).isFolder = true := Bool.not_eq_true _ ▸ isFolder
          rw [if_neg isFile, DriveItem.folder?, isFolder, if_neg Bool.false_ne_true, verdict_entry,
            shownItem_of_file isFolder]
          exact Action.leads_pure _
      | true =>
          have isAgain : ({ item with path := pathOf (place ++ [item.name]) } :
              DriveItem).isFolder = true := isFolder
          have folder : item.folder? = some (item.id, item.name) := by
            rw [DriveItem.folder?, if_pos isFolder]
          rw [if_pos isAgain, folder, verdict_entry, shownItem_of_folder isFolder]
          have walked := ih (place ++ [item.name]) item.id
            (Nat.le_trans (pageRequests_le member folder) enough)
          have followed := walked.bind fun inside => Action.leads_pure
            (if filesOnly then inside
              else { item with path := pathOf (place ++ [item.name]) } :: inside)
          cases filesOnly <;> exact followed

end DriveBrowser

end StoreGate
