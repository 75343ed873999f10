import StoreGate.Caller
import StoreGate.Drive.Item
import StoreGate.Flatten
import StoreGate.Text.LowerCase
/-!
# Browsing a drive

A drive lists one page of a folder and describes single files. Walks over whole trees, searches and
look-ups by name are built from these two.
-/

namespace StoreGate

/-- What a drive offers by itself. -/
structure DriveBrowser (World : Type) where
  listFiles : Caller World → FileQuery → Action World DrivePage
  fileDetails : Caller World → String → Action World DriveItem
  /-- The number of pages that a folder may have. -/
  pageBudget : Nat

namespace DriveBrowser

variable {World : Type}

/-- One page of a query, unless the caller has given up. -/
def fetch (browser : DriveBrowser World) (caller : Caller World) (query : FileQuery) :
    Action World DrivePage := do
  caller.ensureActive
  browser.listFiles caller query

/-- The items below a folder, as many levels down as are left. A folder comes before what it holds,
and is left out if only files are wanted. -/
def walk (browser : DriveBrowser World) (caller : Caller World) (rootId : String)
    (filesOnly : Bool) : (levels : Nat) → (folderId path : String) → Action World (List DriveItem)
  | 0, _, _ => Action.fail (tooDeep rootId)
  | levels + 1, folderId, path =>
    Action.overPages
      (fun token => browser.fetch caller (FileQuery.page folderId token))
      DrivePage.next
      (fun page =>
        Action.collect
          (fun item => do
            let item := { item with path := path ++ "/" ++ item.name }
            if item.isFolder then
              let inside ← walk browser caller rootId filesOnly levels item.id item.path
              return if filesOnly then inside else item :: inside
            else return [item])
          page.files)
      browser.pageBudget none

/-- Every item below a folder. -/
def listRecursive (browser : DriveBrowser World) (caller : Caller World) (parentId : String) :
    Action World (List DriveItem) :=
  browser.walk caller parentId false (folderLevels + 1) parentId ""

/-- Every file below a folder. -/
def listFlat (browser : DriveBrowser World) (caller : Caller World) (parentId : String) :
    Action World (List DriveItem) :=
  browser.walk caller parentId true (folderLevels + 1) parentId ""

/-- Whether the lowercase form of a name holds a text. -/
def nameHolds (needle : List Char) (item : DriveItem) : Bool :=
  Text.occursIn needle (Text.lowerCase item.name.toList)

/-- The items on one page of the root whose names hold a text, in whatever case. -/
def search (browser : DriveBrowser World) (caller : Caller World) (query : String)
    (pageToken : Option String) : Action World DrivePage := do
  let needle := Text.lowerCase (Text.trim query).toList
  if needle.isEmpty then Action.fail (.invalidInput "search query cannot be empty")
  let page ← browser.listFiles caller (FileQuery.page "" pageToken)
  return { page with files := page.files.filter (nameHolds needle) }

/-- The folder with a name directly below another one. -/
def folderByName (browser : DriveBrowser World) (caller : Caller World) (parentId name : String) :
    Action World DriveItem := do
  let query (token : Option String) : FileQuery :=
    { FileQuery.page parentId token with kind := some .folder }
  let found ← Action.searchPages (fun token => browser.fetch caller (query token)) DrivePage.next
    (fun page => page.files.find? fun item => item.isFolder && item.name == name)
    browser.pageBudget none
  match found with
  | some item => return item
  | none => Action.fail (.notFound ("folder not found: " ++ name))

/-- The videos directly below a folder. -/
def listVideos (browser : DriveBrowser World) (caller : Caller World) (parentId : String) :
    Action World (List DriveItem) :=
  let query (token : Option String) : FileQuery :=
    { FileQuery.page parentId token with kind := some .file }
  Action.overPages (fun token => browser.fetch caller (query token)) DrivePage.next
    (fun page => pure (page.files.filter DriveItem.isVideo)) browser.pageBudget none

end DriveBrowser

end StoreGate
