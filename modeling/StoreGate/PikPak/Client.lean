import StoreGate.Http.Client
import StoreGate.PikPak.Api
/-!
# Calling PikPak

The service over HTTP: the address, the query and the body of every call.
-/

namespace StoreGate.PikPak

/-- A client with the addresses of the service. -/
structure Client (World : Type) where
  http : Http.Client World
  driveBase : String
  userBase : String

namespace Client

def standardDriveBase : String := "https://api-drive.mypikpak.com/drive/v1"

def standardUserBase : String := "https://user.mypikpak.com/v1"

/-- The condition that a field has a value. -/
def equals (value : Json) : Json := .object [("eq", value)]

/-- The conditions that a filter stands for, in the order of their names. -/
def conditions (filter : FileFilter) : Json :=
  .object (
    (match filter.kind with
      | some kind => [("kind", equals (.string kind))]
      | none => []) ++
    (match filter.mediaType with
      | some mediaType => [("mime_type", equals (.string mediaType))]
      | none => []) ++
    (if filter.completedOnly then [("phase", equals (.string completePhase))] else []) ++
    [("trashed", equals (.boolean false))])

/-- The condition that a task has started. -/
def startedTasks : Json :=
  .object [("phase", .object [("in",
    .string (runningPhase ++ "," ++ errorPhase ++ "," ++ completePhase))])]

variable {World : Type}

/-- A draft for an address of the drive. -/
def draft (client : Client World) (method path key : String) : Http.Draft :=
  (Http.Draft.make method (client.driveBase ++ path)).bearer key

def listFiles (client : Client World) (key : String) (filter : FileFilter) :
    Action World FileList :=
  let draft := (client.draft "GET" "/files" key).pairs
    [("parent_id", filter.parentId), ("limit", toString filter.limit),
      ("filters", (conditions filter).text), ("with_audit", "true")]
  let draft := match filter.pageToken with
    | some token => draft.pairs [("page_token", token)]
    | none => draft
  Http.call client.http .pikPak "Failed to list files" FileList.ofJson? draft

def file (client : Client World) (key id : String) : Action World File :=
  Http.call client.http .pikPak "Failed to get file" File.ofJson?
    ((client.draft "GET" ("/files/" ++ id) key).pairs [("usage", "FETCH")])

def addUrl (client : Client World) (key link : String) : Action World Task :=
  let body : Json := .object [("kind", .string fileKind), ("upload_type", .string "UPLOAD_TYPE_URL"),
    ("url", .object [("url", .string link)])]
  Http.call client.http .pikPak "Failed to add url" Task.readAdded?
    ((client.draft "POST" "/files" key).json body)

def listTasks (client : Client World) (key : String) (limit : Nat) : Action World (List Task) :=
  Http.call client.http .pikPak "Failed to list tasks" Task.readList?
    ((client.draft "GET" "/tasks" key).pairs
      [("type", "offline"), ("limit", toString limit), ("filters", startedTasks.text)])

def trash (client : Client World) (key : String) (ids : List String) : Action World Unit := do
  let _ ← Http.call client.http .pikPak "Failed to trash files" Json.storable?
    ((client.draft "POST" "/files:batchTrash" key).json (.object [("ids", Json.ofStrings ids)]))
  return ()

def account (client : Client World) (key : String) : Action World Account :=
  Http.call client.http .pikPak "Failed to get user" Account.ofJson?
    ((Http.Draft.make "GET" (client.userBase ++ "/user/me")).bearer key)

def membership (client : Client World) (key : String) : Action World String :=
  Http.call client.http .pikPak "Failed to get vip info" readMembership?
    (client.draft "GET" "/privilege/vip" key)

/-- The service behind a client. -/
def api (client : Client World) : Api World :=
  { listFiles := client.listFiles, file := client.file, addUrl := client.addUrl
    listTasks := client.listTasks, trash := client.trash, account := client.account
    membership := client.membership }

end Client

end StoreGate.PikPak
