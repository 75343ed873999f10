import StoreGate.Action
import StoreGate.Json.Reader
/-!
# The Seedr service

What the store asks of the service, and what it answers with. Every call carries the address and the
password of an account, joined by a colon.
-/

namespace StoreGate.Seedr

/-- A folder in the contents of another one. -/
structure Folder where
  id : Nat
  name : String
  size : Int
  lastUpdate : String
  deriving DecidableEq, Repr

namespace Folder

def ofJson? (value : Json) : Option Folder := do
  let fields ← value.fields? ["id", "name", "size", "last_update"]
  return {
    id := ← fields.required "id" (Json.natural? 64)
    name := ← fields.required "name" Json.text?
    size := ← fields.withDefault "size" 0 Json.signed?
    lastUpdate := ← fields.withDefault "last_update" "" Json.text? }

def toJson (folder : Folder) : Json :=
  .object [("id", .integer folder.id), ("name", .string folder.name),
    ("size", .integer folder.size), ("last_update", .string folder.lastUpdate)]

end Folder

/-- A file in the contents of a folder. -/
structure File where
  id : Nat
  name : String
  size : Int
  deriving DecidableEq, Repr

namespace File

def ofJson? (value : Json) : Option File := do
  let fields ← value.spelledFields? ["folder_file_id", "name", "size"] [("id", "folder_file_id")]
  return {
    id := ← fields.required "folder_file_id" (Json.natural? 64)
    name := ← fields.required "name" Json.text?
    size := ← fields.withDefault "size" 0 Json.signed? }

def toJson (file : File) : Json :=
  .object [("folder_file_id", .integer file.id), ("name", .string file.name),
    ("size", .integer file.size)]

end File

/-- What a folder holds. -/
structure Contents where
  /-- Absent for the root. -/
  id : Option Nat
  name : String
  lastUpdate : String
  folders : List Folder
  files : List File
  deriving DecidableEq, Repr

namespace Contents

def ofJson? (value : Json) : Option Contents := do
  let fields ← value.fields? ["id", "name", "last_update", "folders", "files"]
  return {
    id := ← fields.optional "id" (Json.natural? 64)
    name := ← fields.withDefault "name" "" Json.text?
    lastUpdate := ← fields.withDefault "last_update" "" Json.text?
    folders := ← fields.withDefault "folders" [] (Json.list? Folder.ofJson?)
    files := ← fields.withDefault "files" [] (Json.list? File.ofJson?) }

def toJson (contents : Contents) : Json :=
  .object [("id", Json.ofOption (fun id : Nat => Json.integer id) contents.id),
    ("name", .string contents.name),
    ("last_update", .string contents.lastUpdate),
    ("folders", .array (contents.folders.map Folder.toJson)),
    ("files", .array (contents.files.map File.toJson))]

end Contents

/-- Where a file can be downloaded. -/
structure Download where
  name : String
  url : String
  deriving DecidableEq, Repr

namespace Download

def ofJson? (value : Json) : Option Download := do
  let fields ← value.fields? ["name", "url"]
  return {
    name := ← fields.withDefault "name" "" Json.text?
    url := ← fields.required "url" Json.text? }

def toJson (download : Download) : Json :=
  .object [("name", .string download.name), ("url", .string download.url)]

end Download

/-- The owner of an account. -/
structure Account where
  username : String
  email : String
  isPremium : Bool
  deriving DecidableEq, Repr

namespace Account

def ofJson? (value : Json) : Option Account := do
  let fields ← value.fields? ["username", "email", "is_premium"]
  return {
    username := ← fields.withDefault "username" "" Json.text?
    email := ← fields.withDefault "email" "" Json.text?
    isPremium := ← fields.withDefault "is_premium" false Json.boolean? }

def toJson (account : Account) : Json :=
  .object [("username", .string account.username), ("email", .string account.email),
    ("is_premium", .boolean account.isPremium)]

end Account

/-- The settings of an account, and whether the service could read them. -/
structure Settings where
  succeeded : Bool
  account : Account
  deriving DecidableEq, Repr

namespace Settings

def ofJson? (value : Json) : Option Settings := do
  let fields ← value.fields? ["result", "settings"]
  let readAccount? (value : Json) : Option Account := do
    (← value.fields? ["account"]).required "account" Account.ofJson?
  return {
    succeeded := ← fields.withDefault "result" false Json.boolean?
    account := ← fields.required "settings" readAccount? }

def toJson (settings : Settings) : Json :=
  .object [("result", .boolean settings.succeeded),
    ("settings", .object [("account", settings.account.toJson)])]

end Settings

/-- The calls that the service answers. -/
structure Api (World : Type) where
  root : String → Action World Contents
  folder : String → Nat → Action World Contents
  file : String → Nat → Action World Download
  account : String → Action World Account

end StoreGate.Seedr
