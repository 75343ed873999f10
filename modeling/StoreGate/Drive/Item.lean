import StoreGate.Item
/-!
# Drive items

The files and folders of a drive, whether or not they belong to an item, and the queries that list
them.
-/

namespace StoreGate

inductive DriveKind where
  | folder
  | file
  deriving DecidableEq, Inhabited, Repr

namespace DriveKind

def choices : List (String × DriveKind) := [("folder", .folder), ("file", .file)]

def name : DriveKind → String
  | .folder => "folder"
  | .file => "file"

def toJson (kind : DriveKind) : Json := .string kind.name

def ofJson? : Json → Option DriveKind := Json.choice? choices

end DriveKind

/-- The media types that count as video. -/
def videoTypes : List String :=
  ["video/mp4", "video/x-matroska", "video/avi", "video/quicktime", "video/x-msvideo", "video/webm",
    "video/mpeg"]

structure DriveItem where
  id : String
  name : String
  /-- The size in bytes, or -1 when it is not known. -/
  size : Int
  kind : DriveKind
  mediaType : String
  createdAt : Timestamp
  modifiedAt : Timestamp
  parentId : String
  hash : String
  /-- A direct link, when the service gives one with the listing. -/
  downloadLink : Option String
  /-- The path from the folder that is listed; empty unless a whole tree is listed. -/
  path : String
  deriving DecidableEq, Repr

namespace DriveItem

def isFolder (item : DriveItem) : Bool := item.kind = .folder

def isVideo (item : DriveItem) : Bool :=
  item.kind = .file && videoTypes.contains item.mediaType

/-- A member that is left out when its text is empty. -/
def textMember (name text : String) : List (String × Json) :=
  if text.isEmpty then [] else [(name, .string text)]

def toJson (item : DriveItem) : Json :=
  .object ([("id", .string item.id), ("name", .string item.name), ("size", .integer item.size),
      ("type", item.kind.toJson)] ++ textMember "mime_type" item.mediaType ++
    [("created_at", item.createdAt.toJson), ("modified_at", item.modifiedAt.toJson)] ++
    textMember "parent_id" item.parentId ++ textMember "hash" item.hash ++
    (match item.downloadLink with
      | none => []
      | some link => [("download_link", .string link)]) ++
    textMember "path" item.path)

def ofJson? (value : Json) : Option DriveItem := do
  let fields ← value.fields? ["id", "name", "size", "type", "mime_type", "created_at", "modified_at",
    "parent_id", "hash", "download_link", "path"]
  return {
    id := ← fields.required "id" Json.text?
    name := ← fields.required "name" Json.text?
    size := ← fields.required "size" Json.signed?
    kind := ← fields.required "type" DriveKind.ofJson?
    mediaType := ← fields.withDefault "mime_type" "" Json.text?
    createdAt := ← fields.required "created_at" Timestamp.ofJson?
    modifiedAt := ← fields.required "modified_at" Timestamp.ofJson?
    parentId := ← fields.withDefault "parent_id" "" Json.text?
    hash := ← fields.withDefault "hash" "" Json.text?
    downloadLink := ← fields.optional "download_link" Json.text?
    path := ← fields.withDefault "path" "" Json.text? }

end DriveItem

/-- The number of items on a page when none is asked for. -/
def standardPageSize : Nat := 100

/-- Which page of a folder is wanted. -/
structure FileQuery where
  /-- The folder; empty for the root of the drive. -/
  parentId : String
  pageSize : Nat
  pageToken : Option String
  /-- Only folders, or only files. -/
  kind : Option DriveKind
  mediaType : Option String
  deriving DecidableEq, Repr

namespace FileQuery

/-- The page of a folder that a token names, with everything on it. -/
def page (parentId : String) (pageToken : Option String) : FileQuery :=
  ⟨parentId, standardPageSize, pageToken, none, none⟩

/-- The page size, where none stands for the standard one. -/
def effectivePageSize (query : FileQuery) : Nat :=
  if query.pageSize = 0 then standardPageSize else query.pageSize

def toJson (query : FileQuery) : Json :=
  .object [("parent_id", .string query.parentId), ("page_size", .integer query.pageSize),
    ("page_token", Json.ofOption .string query.pageToken),
    ("kind", Json.ofOption DriveKind.toJson query.kind),
    ("mime_type", Json.ofOption .string query.mediaType)]

def ofJson? (value : Json) : Option FileQuery := do
  let fields ← value.fields? ["parent_id", "page_size", "page_token", "kind", "mime_type"]
  return {
    parentId := ← fields.withDefault "parent_id" "" Json.text?
    pageSize := ← fields.withDefault "page_size" standardPageSize (Json.natural? 32)
    pageToken := ← fields.optional "page_token" Json.text?
    kind := ← fields.optional "kind" DriveKind.ofJson?
    mediaType := ← fields.optional "mime_type" Json.text? }

end FileQuery

/-- One page of a folder. -/
structure DrivePage where
  files : List DriveItem
  next : Option String
  hasMore : Bool
  deriving DecidableEq, Repr

namespace DrivePage

/-- A page whose token, unless it is empty, names another one. -/
def make (files : List DriveItem) (next : Option String) : DrivePage :=
  let next := next.filter (!·.isEmpty)
  ⟨files, next, next.isSome⟩

def toJson (page : DrivePage) : Json :=
  .object ([("files", .array (page.files.map DriveItem.toJson))] ++
    (match page.next with
      | none => []
      | some token => [("next_page_token", .string token)]) ++
    [("has_more", .boolean page.hasMore)])

def ofJson? (value : Json) : Option DrivePage := do
  let fields ← value.fields? ["files", "next_page_token", "has_more"]
  return {
    files := ← fields.required "files" (Json.list? DriveItem.ofJson?)
    next := ← fields.optional "next_page_token" Json.text?
    hasMore := ← fields.required "has_more" Json.boolean? }

end DrivePage

end StoreGate
