import StoreGate.Json.Reader
import StoreGate.Store
import StoreGate.Timestamp
/-!
# Content items

What every store answers with: items and their files, listings of items, and the owner of an
account, each with its JSON form.
-/

namespace StoreGate

/-- How far an item has come. -/
inductive ItemStatus where
  | queued
  | downloading
  | downloaded
  | failed
  | unknown
  deriving DecidableEq, Inhabited, Repr

namespace ItemStatus

def choices : List (String × ItemStatus) :=
  [("queued", .queued), ("downloading", .downloading), ("downloaded", .downloaded),
    ("failed", .failed), ("unknown", .unknown)]

def name : ItemStatus → String
  | .queued => "queued"
  | .downloading => "downloading"
  | .downloaded => "downloaded"
  | .failed => "failed"
  | .unknown => "unknown"

def toJson (status : ItemStatus) : Json := .string status.name

def ofJson? : Json → Option ItemStatus := Json.choice? choices

end ItemStatus

/-- Reads a point in time. -/
def Timestamp.ofJson? (value : Json) : Option Timestamp :=
  value.text? >>= Timestamp.ofLooseText?

def Timestamp.toJson (time : Timestamp) : Json := .string time.text

/-- One file of an item. -/
structure ItemFile where
  /-- The place of the file, or -1 when the service keeps no order. -/
  index : Int
  name : String
  /-- The path from the root of the item, with a slash in front. -/
  path : String
  /-- The size in bytes, or -1 when it is not known. -/
  size : Int
  /-- The locked link of the file. -/
  link : String
  /-- The code of the store. -/
  source : String
  deriving DecidableEq, Repr

namespace ItemFile

def toJson (file : ItemFile) : Json :=
  .object [("idx", .integer file.index), ("name", .string file.name), ("path", .string file.path),
    ("size", .integer file.size), ("link", .string file.link), ("source", .string file.source)]

def ofJson? (value : Json) : Option ItemFile := do
  let fields ← value.fields? ["idx", "name", "path", "size", "link", "source"]
  return {
    index := ← fields.required "idx" Json.signed?
    name := ← fields.required "name" Json.text?
    path := ← fields.required "path" Json.text?
    size := ← fields.required "size" Json.signed?
    link := ← fields.required "link" Json.text?
    source := ← fields.required "source" Json.text? }

end ItemFile

/-- An item as listings show it. -/
structure ItemSummary where
  id : String
  name : String
  hash : String
  size : Int
  status : ItemStatus
  addedAt : Timestamp
  deriving DecidableEq, Repr

namespace ItemSummary

def toJson (item : ItemSummary) : Json :=
  .object [("id", .string item.id), ("name", .string item.name), ("hash", .string item.hash),
    ("size", .integer item.size), ("status", item.status.toJson),
    ("added_at", item.addedAt.toJson)]

def ofJson? (value : Json) : Option ItemSummary := do
  let fields ← value.fields? ["id", "name", "hash", "size", "status", "added_at"]
  return {
    id := ← fields.required "id" Json.text?
    name := ← fields.required "name" Json.text?
    hash := ← fields.required "hash" Json.text?
    size := ← fields.required "size" Json.signed?
    status := ← fields.required "status" ItemStatus.ofJson?
    addedAt := ← fields.required "added_at" Timestamp.ofJson? }

end ItemSummary

/-- An item with its files. -/
structure Item where
  id : String
  name : String
  /-- The info hash; empty when the store knows none. -/
  hash : String
  /-- The magnet link that the item was added with; empty when it is not known. -/
  magnet : String
  /-- The size in bytes, or -1 when it is not known. -/
  size : Int
  status : ItemStatus
  files : List ItemFile
  addedAt : Timestamp
  deriving DecidableEq, Repr

namespace Item

def summary (item : Item) : ItemSummary :=
  ⟨item.id, item.name, item.hash, item.size, item.status, item.addedAt⟩

def toJson (item : Item) : Json :=
  .object ([("id", .string item.id), ("name", .string item.name), ("hash", .string item.hash)] ++
    (if item.magnet.isEmpty then [] else [("magnet", .string item.magnet)]) ++
    [("size", .integer item.size), ("status", item.status.toJson),
      ("files", .array (item.files.map ItemFile.toJson)), ("added_at", item.addedAt.toJson)])

def ofJson? (value : Json) : Option Item := do
  let fields ← value.fields?
    ["id", "name", "hash", "magnet", "size", "status", "files", "added_at"]
  return {
    id := ← fields.required "id" Json.text?
    name := ← fields.required "name" Json.text?
    hash := ← fields.required "hash" Json.text?
    magnet := ← fields.withDefault "magnet" "" Json.text?
    size := ← fields.required "size" Json.signed?
    status := ← fields.required "status" ItemStatus.ofJson?
    files := ← fields.required "files" (Json.list? ItemFile.ofJson?)
    addedAt := ← fields.required "added_at" Timestamp.ofJson? }

end Item

/-- One page of a listing. -/
structure ItemPage where
  items : List ItemSummary
  /-- The number of items on all pages. -/
  total : Nat
  deriving DecidableEq, Repr

namespace ItemPage

def toJson (page : ItemPage) : Json :=
  .object [("items", .array (page.items.map ItemSummary.toJson)), ("total_items", .integer page.total)]

def ofJson? (value : Json) : Option ItemPage := do
  let fields ← value.fields? ["items", "total_items"]
  return {
    items := ← fields.required "items" (Json.list? ItemSummary.ofJson?)
    total := ← fields.required "total_items" (Json.natural? 64) }

end ItemPage

/-- Which part of a listing is wanted. -/
structure PageRange where
  offset : Nat
  limit : Nat
  deriving DecidableEq, Repr

namespace PageRange

/-- The first hundred items. -/
def first : PageRange := ⟨0, 100⟩

/-- The page of a complete listing. -/
def slice (range : PageRange) (items : List ItemSummary) : ItemPage :=
  ⟨(items.drop range.offset).take range.limit, items.length⟩

end PageRange

/-- What an account is entitled to. -/
inductive Subscription where
  | premium
  | trial
  | expired
  deriving DecidableEq, Inhabited, Repr

namespace Subscription

def choices : List (String × Subscription) :=
  [("premium", .premium), ("trial", .trial), ("expired", .expired)]

def name : Subscription → String
  | .premium => "premium"
  | .trial => "trial"
  | .expired => "expired"

def toJson (subscription : Subscription) : Json := .string subscription.name

def ofJson? : Json → Option Subscription := Json.choice? choices

end Subscription

/-- The owner of an account. -/
structure User where
  id : String
  email : String
  subscription : Subscription
  deriving DecidableEq, Repr

namespace User

def toJson (user : User) : Json :=
  .object [("id", .string user.id), ("email", .string user.email),
    ("subscription_status", user.subscription.toJson)]

def ofJson? (value : Json) : Option User := do
  let fields ← value.fields? ["id", "email", "subscription_status"]
  return {
    id := ← fields.required "id" Json.text?
    email := ← fields.required "email" Json.text?
    subscription := ← fields.required "subscription_status" Subscription.ofJson? }

end User

/-- Whether a store already holds the content of a magnet link. -/
structure MagnetCheck where
  magnet : String
  hash : String
  status : ItemStatus
  files : List ItemFile
  deriving DecidableEq, Repr

namespace MagnetCheck

def toJson (check : MagnetCheck) : Json :=
  .object [("magnet", .string check.magnet), ("hash", .string check.hash),
    ("status", check.status.toJson), ("files", .array (check.files.map ItemFile.toJson))]

def ofJson? (value : Json) : Option MagnetCheck := do
  let fields ← value.fields? ["magnet", "hash", "status", "files"]
  return {
    magnet := ← fields.required "magnet" Json.text?
    hash := ← fields.required "hash" Json.text?
    status := ← fields.required "status" ItemStatus.ofJson?
    files := ← fields.withDefault "files" [] (Json.list? ItemFile.ofJson?) }

end MagnetCheck

end StoreGate
