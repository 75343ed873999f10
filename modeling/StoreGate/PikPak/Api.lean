import StoreGate.Action
import StoreGate.PikPak.File
import StoreGate.Poll
/-!
# The PikPak service

What the store asks of the service, and the tasks and accounts that it answers with. Every call
carries the access token of an account.
-/

namespace StoreGate.PikPak

/-- A download that the service performs. -/
structure Task where
  id : String
  name : String
  /-- The file that the download becomes. -/
  fileId : String
  phase : String
  deriving DecidableEq, Repr

namespace Task

def ofJson? (value : Json) : Option Task := do
  let fields ← value.fields? ["id", "name", "file_id", "phase"]
  return {
    id := ← fields.required "id" Json.text?
    name := ← fields.withDefault "name" "" Json.text?
    fileId := ← fields.withDefault "file_id" "" Json.text?
    phase := ← fields.withDefault "phase" "" Json.text? }

def toJson (task : Task) : Json :=
  .object [("id", .string task.id), ("name", .string task.name), ("file_id", .string task.fileId),
    ("phase", .string task.phase)]

/-- How far the task has come. -/
def state (task : Task) : TaskPhase :=
  if task.phase = completePhase then .complete
  else if task.phase = errorPhase then .failed
  else .pending

/-- Reads a list of tasks. -/
def readList? (value : Json) : Option (List Task) := do
  (← value.fields? ["tasks"]).withDefault "tasks" [] (Json.list? Task.ofJson?)

def listToJson (tasks : List Task) : Json :=
  .object [("tasks", .array (tasks.map Task.toJson))]

/-- Reads the answer to a new download. -/
def readAdded? (value : Json) : Option Task := do
  (← value.fields? ["task"]).required "task" Task.ofJson?

def addedToJson (task : Task) : Json :=
  .object [("task", task.toJson)]

end Task

/-- The owner of an account. -/
structure Account where
  subject : String
  email : String
  deriving DecidableEq, Repr

namespace Account

def ofJson? (value : Json) : Option Account := do
  let fields ← value.fields? ["sub", "email"]
  return {
    subject := ← fields.required "sub" Json.text?
    email := ← fields.withDefault "email" "" Json.text? }

def toJson (account : Account) : Json :=
  .object [("sub", .string account.subject), ("email", .string account.email)]

end Account

/-- The type of a membership that counts as premium. -/
def premiumMembership : String := "platinum"

/-- Reads the type of a membership. -/
def readMembership? (value : Json) : Option String := do
  (← value.fields? ["data"]).withDefault "data" "" (readSingleText? "type")

def membershipToJson (kind : String) : Json :=
  .object [("data", .object [("type", .string kind)])]

/-- The calls that the service answers. -/
structure Api (World : Type) where
  listFiles : String → FileFilter → Action World FileList
  file : String → String → Action World File
  /-- Starts a download. -/
  addUrl : String → String → Action World Task
  /-- The latest tasks that have started, at most some. -/
  listTasks : String → Nat → Action World (List Task)
  /-- Moves files to the trash. -/
  trash : String → List String → Action World Unit
  account : String → Action World Account
  membership : String → Action World String

end StoreGate.PikPak
