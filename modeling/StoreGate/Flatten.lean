import StoreGate.Bits
import StoreGate.Caller
import StoreGate.LockedLink
/-!
# Flattening folders

The files below a folder of a drive, depth first: every page of a folder in order, and every folder
at the place where its parent lists it. Folders that nest too deeply are taken for a corrupt listing,
which is also how a walk ends that meets a folder inside itself.
-/

namespace StoreGate

/-- The deepest nesting that is followed. -/
def folderLevels : Nat := 32

/-- The failure of a walk that has gone below the deepest level. -/
def tooDeep (rootId : String) : Failure :=
  .corruptListing
    ("folder " ++ rootId ++ " nested deeper than " ++ toString folderLevels ++ " levels")

/-- What a folder holds. -/
inductive FolderEntry where
  | folder (id name : String)
  | file (id name : String) (size : Int)
  deriving DecidableEq, Repr

structure FolderPage where
  entries : List FolderEntry
  /-- The token of the next page. -/
  next : Option String
  deriving DecidableEq, Repr

namespace FolderPage

/-- The token of the next page; an empty one is none. -/
def next? (page : FolderPage) : Option String :=
  page.next.filter (!·.isEmpty)

end FolderPage

/-- Lists one page of a folder. -/
abbrev FolderSource (World : Type) := String → Option String → Action World FolderPage

/-- The files below a folder. -/
structure Flattened where
  files : List ItemFile
  /-- The sum of the known sizes. -/
  size : Int
  deriving DecidableEq, Repr

/-- A world beside the sum of the known sizes of all files that a walk has met so far. -/
structure Tally (World : Type) where
  total : Int
  world : World

namespace Tally

variable {World α : Type}

/-- An action on the world alone; the sum stays as it is. -/
def outside (action : Action World α) : Action (Tally World) α :=
  action.onPart Tally.world fun world tally => { tally with world }

/-- Adds the size of a file to the sum, if it is known. The sum has 64 bits with its sign. -/
def add (size : Int) : Action (Tally World) Unit := do
  let tally ← get
  if 0 < size then
    if tally.total + size < bitLimit 63 then set { tally with total := tally.total + size }
    else throw .overflow

/-- An action that begins with nothing added up. -/
def fromZero (action : Action (Tally World) α) : Action World α :=
  action.onPart (⟨0, ·⟩) fun tally _ => tally.world

end Tally

namespace Flatten

variable {World : Type}

/-- A file of an item, under the path of its folder. -/
def fileAt (store : Store) (rootId path id name : String) (size : Int) : ItemFile :=
  { index := -1, name, path := path ++ "/" ++ name, size
    link := LockedLink.encode store ⟨rootId, id⟩, source := store.code }

/-- One page of a folder, unless the caller has given up. -/
def fetch (source : FolderSource World) (caller : Caller World) (folderId : String)
    (token : Option String) : Action World FolderPage := do
  caller.check "folder listing cancelled"
  source folderId token

/-- The files below a folder, as many levels down as are left. Their sizes are added up on the
way. -/
def walk (source : FolderSource World) (store : Store) (rootId : String) (caller : Caller World)
    (budget : Nat) :
    (levels : Nat) → (folderId path : String) → Action (Tally World) (List ItemFile)
  | 0, _, _ => Action.fail (tooDeep rootId)
  | levels + 1, folderId, path =>
    Action.overPages (fun token => Tally.outside (fetch source caller folderId token))
      FolderPage.next?
      (fun page =>
        Action.collect
          (fun entry =>
            match entry with
            | .folder id name =>
              walk source store rootId caller budget levels id (path ++ "/" ++ name)
            | .file id name size => do
              Tally.add size
              return [fileAt store rootId path id name size])
          page.entries)
      budget none

/-- The files below a folder and their total size. Every folder has at most as many pages as the
budget allows. -/
def run (source : FolderSource World) (store : Store) (rootId : String) (caller : Caller World)
    (budget : Nat) : Action World Flattened :=
  Tally.fromZero do
    let files ← walk source store rootId caller budget (folderLevels + 1) rootId ""
    return ⟨files, (← get).total⟩

end Flatten

end StoreGate
