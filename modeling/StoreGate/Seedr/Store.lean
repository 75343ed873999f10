import StoreGate.Decimal
import StoreGate.Listing
import StoreGate.Provider
import StoreGate.Seedr.Api
/-!
# The Seedr store

A drive whose top-level folders are the items. Nothing can be added, removed or checked through it.
The contents of an item's own folder are fetched for its name, and then used again by the walk that
collects its files.
-/

namespace StoreGate.Seedr

/-- The settings of the store. -/
structure Config where
  /-- The credential of callers that bring none. -/
  apiKey : Option String
  deriving DecidableEq, Repr

namespace Config

def ofJson? (value : Json) : Option Config := do
  return ⟨← (← value.fields? ["api_key"]).optional "api_key" Json.text?⟩

def toJson (config : Config) : Json :=
  .object [("api_key", Json.ofOption .string config.apiKey)]

end Config

/-- A store on top of the service. -/
structure Drive (World : Type) where
  api : Api World
  clock : Clock World
  /-- The credential of callers that bring none. -/
  apiKey : Option String
  listing : Listing
  /-- The number of pages that a folder may have. -/
  pageBudget : Nat

/-- Reads an identifier, which is a number of 64 bits. -/
def readId? (id : String) : Option Nat :=
  Decimal.natural? 64 id

/-- A point in time as the service writes it; the epoch when it is none. -/
def readTime (text : String) : Timestamp :=
  (Timestamp.ofPlainText? text <|> Timestamp.ofRfc3339? text).getD Timestamp.epoch

/-- A folder that was fetched before the walk that will ask for it. -/
structure Prefetched (World : Type) where
  folder : Option (Nat × Contents)
  world : World

namespace Prefetched

variable {World α : Type}

/-- An action on the world alone. -/
def outside (action : Action World α) : Action (Prefetched World) α :=
  action.onPart Prefetched.world fun world state => { state with world }

/-- Takes the folder that was fetched before, if it has the given identifier. -/
def take? (id : Nat) : Action (Prefetched World) (Option Contents) := do
  let state ← get
  match state.folder with
  | some (known, contents) =>
    if known = id then
      set { state with folder := none }
      return some contents
    else return none
  | none => return none

end Prefetched

namespace Drive

variable {World : Type}

/-- The credential of a caller. -/
def keyOf (drive : Drive World) (caller : Caller World) : Action World String :=
  Action.ofOutcome (caller.apiKeyOr drive.apiKey)

/-- What a folder holds, files before folders. -/
def pageOf (contents : Contents) : FolderPage :=
  { entries :=
      contents.files.map (fun file => .file (toString file.id) file.name file.size) ++
        contents.folders.map fun folder => .folder (toString folder.id) folder.name
    next := none }

/-- The folders of an account, one of which may have been fetched before. -/
def folders (drive : Drive World) (key : String) : FolderSource (Prefetched World) :=
  fun folderId _ => do
    match readId? folderId with
    | none => Action.fail (.corruptListing ("non-numeric seedr folder id: " ++ folderId))
    | some id =>
      match ← Prefetched.take? id with
      | some contents => return pageOf contents
      | none => return pageOf (← Prefetched.outside (drive.api.folder key id))

/-- Performs a walk with a folder that was fetched before. -/
def withPrefetched {α : Type} (id : Nat) (contents : Contents)
    (walk : Action (Prefetched World) α) : Action World α :=
  ExceptT.mk fun world =>
    let (result, state) := walk.runOn ⟨some (id, contents), world⟩
    (result, state.world)

/-- The caller as a walk with a prefetched folder sees it. -/
def walker (caller : Caller World) : Caller (Prefetched World) :=
  ⟨caller.apiKey, caller.clientIp, fun state => caller.isCancelled state.world⟩

/-- The summaries of all items. -/
def fetchListing (drive : Drive World) (key : String) : Action World (List ItemSummary) := do
  let root ← drive.api.root key
  return root.folders.map fun folder =>
    ⟨toString folder.id, folder.name, "", folder.size, .downloaded, readTime folder.lastUpdate⟩

def user (drive : Drive World) (caller : Caller World) : Action World User := do
  let account ← drive.api.account (← drive.keyOf caller)
  return ⟨account.username, account.email, if account.isPremium then .premium else .expired⟩

def item (drive : Drive World) (caller : Caller World) (id : String) : Action World Item := do
  match readId? id with
  | none => Action.fail (.invalidInput ("Invalid seedr folder id: " ++ id))
  | some folderId =>
    let key ← drive.keyOf caller
    let contents ← drive.api.folder key folderId
    let flat ← withPrefetched folderId contents
      (Flatten.run (drive.folders key) .seedr id (walker caller) drive.pageBudget)
    return ⟨id, contents.name, "", "", flat.size, .downloaded, flat.files,
      readTime contents.lastUpdate⟩

def list (drive : Drive World) (caller : Caller World) (range : PageRange) :
    Action (Session World) ItemPage := do
  let key ← Session.outside (drive.keyOf caller)
  drive.listing.page drive.clock (accountKey key) range (drive.fetchListing key)

def resolve (drive : Drive World) (caller : Caller World) (link : String) :
    Action World String := do
  let address ← Action.ofOutcome (LockedLink.decode .seedr link)
  match readId? address.fileId with
  | none => Action.fail (.invalidLink ("Invalid seedr file id: " ++ address.fileId))
  | some fileId =>
    let key ← drive.keyOf caller
    let download ← drive.api.file key fileId
    if download.url.isEmpty then
      Action.fail (.notFound ("No download link for file " ++ address.fileId))
    return download.url

/-- The answer to an operation that the store does not have. -/
def unsupported {State α : Type} (operation : String) : Action State α :=
  Action.fail (.unsupported .seedr operation)

/-- The store as callers see it. -/
def provider (drive : Drive World) : Provider World :=
  { store := .seedr, user := drive.user, add := fun _ _ => unsupported "add magnet"
    item := drive.item, list := drive.list, remove := fun _ _ => unsupported "remove magnet"
    check := fun _ _ => unsupported "check magnet", resolve := drive.resolve, browser := none }

end Drive

end StoreGate.Seedr
