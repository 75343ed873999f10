import StoreGate.Availability
import StoreGate.Listing
import StoreGate.PikPak.Api
import StoreGate.Provider
/-!
# The PikPak store

A drive that downloads torrents by itself. Downloads land in one folder of the drive, and everything
in that folder is an item. Adding a magnet looks for an item with the same hash first; otherwise it
starts a download and waits for it as long as the policy allows.
-/

namespace StoreGate.PikPak

/-- The settings of the store. -/
structure Config where
  /-- The access token of callers that bring none. -/
  apiKey : Option String
  pollRetries : Nat
  /-- The pause between two looks at a task, in milliseconds. -/
  pollInterval : Nat
  deriving DecidableEq, Repr

namespace Config

def ofJson? (value : Json) : Option Config := do
  let fields ← value.fields? ["api_key", "poll_retries", "poll_interval_ms"]
  return {
    apiKey := ← fields.optional "api_key" Json.text?
    pollRetries := ←
      fields.withDefault "poll_retries" PollPolicy.standard.retries (Json.natural? 32)
    pollInterval := ← fields.withDefault "poll_interval_ms"
      PollPolicy.standard.interval.milliseconds (Json.natural? 64) }

def toJson (config : Config) : Json :=
  .object [("api_key", Json.ofOption .string config.apiKey),
    ("poll_retries", .integer config.pollRetries),
    ("poll_interval_ms", .integer config.pollInterval)]

def policy (config : Config) : PollPolicy :=
  ⟨config.pollRetries, Duration.ofMilliseconds config.pollInterval⟩

end Config

/-- A store on top of the service. -/
structure Drive (World : Type) where
  api : Api World
  clock : Clock World
  /-- The access token of callers that bring none. -/
  apiKey : Option String
  policy : PollPolicy
  listing : Listing
  availability : Availability World
  /-- The number of pages that a folder may have. -/
  pageBudget : Nat

namespace Drive

variable {World : Type}

/-- The access token of a caller. -/
def keyOf (drive : Drive World) (caller : Caller World) : Action World String :=
  Action.ofOutcome (caller.apiKeyOr drive.apiKey)

/-- The folder that downloads are put in. -/
def packFolder (drive : Drive World) (key : String) : Action World File := do
  let list ← drive.api.listFiles key (FileFilter.completed "" none)
  match list.files.find? (·.name = packName) with
  | some folder => return folder
  | none => Action.fail (.service .pikPak "'My Pack' folder missing")

/-- All finished files in the folder of downloads. -/
def packFiles (drive : Drive World) (key : String) : Action World (List File) := do
  let folder ← drive.packFolder key
  Action.overPages (fun token => drive.api.listFiles key (FileFilter.completed folder.id token))
    FileList.next? (fun list => pure list.files) drive.pageBudget none

/-- Whether the address that a file came from holds a hash. -/
def comesFrom (hash : String) (file : File) : Bool :=
  Text.occursIn hash.toList (file.sourceUrl.toList.map Char.toLower)

/-- The first item that comes from a hash. -/
def fileOfHash? (drive : Drive World) (key hash : String) : Action World (Option File) := do
  return (← drive.packFiles key).find? (comesFrom hash)

/-- How many tasks are looked through. -/
def recentTasks : Nat := 200

/-- The task with an identifier, among the latest ones. -/
def task (drive : Drive World) (key id : String) : Action World Task := do
  match (← drive.api.listTasks key recentTasks).find? (·.id = id) with
  | some task => return task
  | none => Action.fail (.service .pikPak ("task not found: " ++ id))

/-- The entry of a folder that a file is. -/
def entryOf (file : File) : FolderEntry :=
  if file.isFolder then .folder file.id file.name else .file file.id file.name file.sizeInBytes

/-- The folders of an account. -/
def folders (drive : Drive World) (key : String) : FolderSource World := fun folderId token => do
  let list ← drive.api.listFiles key (FileFilter.completed folderId token)
  return ⟨list.files.map entryOf, list.next?⟩

/-- The hash of a link that may be no magnet link. -/
def hashOf (link : String) : String :=
  match Magnet.parse link with
  | .ok magnet => magnet.hash
  | .error _ => ""

/-- The only file of an item that is no folder. -/
def singleFile (file : File) : ItemFile :=
  { index := -1, name := file.name, path := "/" ++ file.name, size := file.sizeInBytes
    link := LockedLink.encode .pikPak ⟨file.id, file.id⟩, source := Store.pikPak.code }

/-- The item that a file of the drive is. -/
def itemOf (drive : Drive World) (caller : Caller World) (key : String) (file : File) :
    Action World Item := do
  let item : Item :=
    ⟨file.id, file.name, hashOf file.sourceUrl, "", -1, .downloading, [], file.addedAt⟩
  if !file.isComplete then return item
  else if file.isFolder then
    let flat ← Flatten.run (drive.folders key) .pikPak file.id caller drive.pageBudget
    return { item with status := .downloaded, size := flat.size, files := flat.files }
  else
    return { item with
      status := .downloaded, size := file.sizeInBytes, files := [singleFile file] }

/-- The summary of a file that came from a magnet link. -/
def summary? (file : File) : Option ItemSummary :=
  if (Text.afterText? Magnet.scheme file.sourceUrl).isSome then
    match Magnet.parse file.sourceUrl with
    | .ok magnet =>
      some ⟨file.id, file.name, magnet.hash, file.sizeInBytes,
        if file.isComplete then .downloaded else .downloading, file.addedAt⟩
    | .error _ => none
  else none

/-- The summaries of all items. -/
def fetchListing (drive : Drive World) (key : String) : Action World (List ItemSummary) := do
  return (← drive.packFiles key).filterMap summary?

def user (drive : Drive World) (caller : Caller World) : Action World User := do
  let key ← drive.keyOf caller
  let account ← drive.api.account key
  let kind ← drive.api.membership key
  return ⟨account.subject, account.email, if kind = premiumMembership then .premium else .trial⟩

/-- The status of an item whose task has not completed, by the last look at the task. -/
def statusOf (last : Option Task) : ItemStatus :=
  match last with
  | none => .queued
  | some task =>
    if task.phase = errorPhase then .failed
    else if task.phase = runningPhase then .downloading
    else .queued

/-- Describes a new item after the wait for its task. -/
def afterWait (drive : Drive World) (caller : Caller World) (key : String) (item : Item)
    (waited : Except (PollFailure Task) Task) : Action World Item := do
  match waited with
  | .ok _ =>
    let full ← drive.itemOf caller key (← drive.api.file key item.id)
    return { item with
      name := full.name, size := full.size, status := full.status, files := full.files
      addedAt := full.addedAt }
  | .error ⟨_, .failure (.cancelled reason)⟩ => Action.fail (.cancelled reason)
  | .error ⟨last, .failure _⟩ => return { item with status := statusOf last }
  | .error ⟨_, halt⟩ => throw halt

/-- Starts a download and waits for it. The listing of the account is dropped as soon as the download
has started, and once more after the wait. -/
def download (drive : Drive World) (caller : Caller World) (key : String) (magnet : Magnet) :
    Action (Session World) Item := do
  let task ← Session.outside (drive.api.addUrl key magnet.rawLink)
  drive.listing.forget (accountKey key)
  let session ← get
  let item : Item :=
    ⟨task.fileId, magnet.name, magnet.hash, magnet.link, -1, .queued, [],
      drive.clock.time session.world⟩
  let waited ← Session.outside (Poll.wait (drive.task key task.id) Task.state caller.isCancelled
    drive.clock drive.policy)
  drive.listing.forget (accountKey key)
  Session.outside (drive.afterWait caller key item waited)

def add (drive : Drive World) (caller : Caller World) (input : AddInput) :
    Action (Session World) Item := do
  let magnet ← match input with
    | .magnet link => Action.ofOutcome (Magnet.parse link)
    | .torrent _ => Action.fail (.unsupported .pikPak "add torrent file")
  let key ← Session.outside (drive.keyOf caller)
  Session.outside caller.ensureActive
  match ← Session.outside (drive.fileOfHash? key magnet.hash) with
  | some file =>
    let item ← Session.outside (drive.itemOf caller key file)
    return { item with hash := magnet.hash, magnet := magnet.link }
  | none => drive.download caller key magnet

def item (drive : Drive World) (caller : Caller World) (id : String) : Action World Item := do
  let key ← drive.keyOf caller
  drive.itemOf caller key (← drive.api.file key id)

def list (drive : Drive World) (caller : Caller World) (range : PageRange) :
    Action (Session World) ItemPage := do
  let key ← Session.outside (drive.keyOf caller)
  drive.listing.page drive.clock (accountKey key) range (drive.fetchListing key)

def remove (drive : Drive World) (caller : Caller World) (id : String) :
    Action (Session World) String := do
  let key ← Session.outside (drive.keyOf caller)
  Session.outside (drive.api.trash key [id])
  drive.listing.forget (accountKey key)
  return id

def check (drive : Drive World) (caller : Caller World) (links : List String) :
    Action World (List MagnetCheck) := do
  let magnets ← Action.ofOutcome (links.mapM Magnet.parse)
  drive.availability .pikPak magnets caller

def resolve (drive : Drive World) (caller : Caller World) (link : String) :
    Action World String := do
  let address ← Action.ofOutcome (LockedLink.decode .pikPak link)
  let key ← drive.keyOf caller
  let file ← drive.api.file key address.fileId
  match (file.mediaUrls ++ [file.contentUrl]).find? (!·.isEmpty) with
  | some url => return url
  | none => Action.fail (.notFound ("No download link for file " ++ file.id))

/-- The kind by which the service narrows a list. -/
def kindName : DriveKind → String
  | .folder => folderKind
  | .file => fileKind

def listFiles (drive : Drive World) (caller : Caller World) (query : FileQuery) :
    Action World DrivePage := do
  let key ← drive.keyOf caller
  let filter : FileFilter :=
    { FileFilter.any query.parentId query.effectivePageSize with
      pageToken := query.pageToken, kind := query.kind.map kindName, mediaType := query.mediaType }
  let list ← drive.api.listFiles key filter
  return DrivePage.make (list.files.map File.driveItem) (some list.nextToken)

def fileDetails (drive : Drive World) (caller : Caller World) (id : String) :
    Action World DriveItem := do
  let key ← drive.keyOf caller
  return (← drive.api.file key id).driveItem

def browser (drive : Drive World) : DriveBrowser World :=
  ⟨drive.listFiles, drive.fileDetails, drive.pageBudget⟩

/-- The store as callers see it. -/
def provider (drive : Drive World) : Provider World :=
  { store := .pikPak, user := drive.user, add := drive.add, item := drive.item, list := drive.list
    remove := drive.remove, check := drive.check, resolve := drive.resolve
    browser := some drive.browser }

end Drive

end StoreGate.PikPak
