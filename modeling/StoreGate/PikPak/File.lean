import StoreGate.Decimal
import StoreGate.Drive.Item
/-!
# Files of a PikPak drive

Files and folders as the service describes them, lists of them, and what a list can be narrowed to.
-/

namespace StoreGate.PikPak

/-- The kind of a folder. -/
def folderKind : String := "drive#folder"

/-- The kind of a file. -/
def fileKind : String := "drive#file"

/-- The phase of a file or a task that is complete. -/
def completePhase : String := "PHASE_TYPE_COMPLETE"

def runningPhase : String := "PHASE_TYPE_RUNNING"

def errorPhase : String := "PHASE_TYPE_ERROR"

/-- The name of the folder that downloads are put in. -/
def packName : String := "My Pack"

/-- Reads a record whose only field is a text that may be absent. -/
def readSingleText? (name : String) (value : Json) : Option String := do
  (← value.fields? [name]).withDefault name "" Json.text?

/-- A file or a folder. -/
structure File where
  id : String
  kind : String
  name : String
  /-- The size in bytes, in decimal digits. -/
  size : String
  phase : String
  createdTime : String
  modifiedTime : String
  mediaType : String
  parentId : String
  hash : String
  /-- The address that the file was downloaded from. -/
  sourceUrl : String
  /-- The addresses of renditions, some of which may be empty. -/
  mediaUrls : List String
  contentUrl : String
  deriving DecidableEq, Repr

namespace File

def fieldNames : List String :=
  ["id", "kind", "name", "size", "phase", "created_time", "modified_time", "mime_type", "parent_id",
    "hash", "params", "medias", "web_content_link"]

/-- Reads the address of a rendition. -/
def readMedia? (value : Json) : Option String := do
  (← value.fields? ["link"]).withDefault "link" "" (readSingleText? "url")

def ofJson? (value : Json) : Option File := do
  let fields ← value.fields? fieldNames
  return {
    id := ← fields.required "id" Json.text?
    kind := ← fields.required "kind" Json.text?
    name := ← fields.required "name" Json.text?
    size := ← fields.withDefault "size" "" Json.text?
    phase := ← fields.withDefault "phase" "" Json.text?
    createdTime := ← fields.withDefault "created_time" "" Json.text?
    modifiedTime := ← fields.withDefault "modified_time" "" Json.text?
    mediaType := ← fields.withDefault "mime_type" "" Json.text?
    parentId := ← fields.withDefault "parent_id" "" Json.text?
    hash := ← fields.withDefault "hash" "" Json.text?
    sourceUrl := ← fields.withDefault "params" "" (readSingleText? "url")
    mediaUrls := ← fields.withDefault "medias" [] (Json.list? readMedia?)
    contentUrl := ← fields.withDefault "web_content_link" "" Json.text? }

/-- A record with an address as its only field. -/
def urlRecord (url : String) : Json := .object [("url", .string url)]

def toJson (file : File) : Json :=
  .object [("id", .string file.id), ("kind", .string file.kind), ("name", .string file.name),
    ("size", .string file.size), ("phase", .string file.phase),
    ("created_time", .string file.createdTime), ("modified_time", .string file.modifiedTime),
    ("mime_type", .string file.mediaType), ("parent_id", .string file.parentId),
    ("hash", .string file.hash), ("params", urlRecord file.sourceUrl),
    ("medias", .array (file.mediaUrls.map fun url => .object [("link", urlRecord url)])),
    ("web_content_link", .string file.contentUrl)]

def isFolder (file : File) : Bool := file.kind = folderKind

def isComplete (file : File) : Bool := file.phase = completePhase

/-- The size in bytes, or -1 when it is no number. -/
def sizeInBytes (file : File) : Int :=
  (Decimal.signed? file.size).getD (-1)

/-- The first rendition that has an address. -/
def mediaUrl? (file : File) : Option String :=
  file.mediaUrls.find? (!·.isEmpty)

/-- A point in time as the service writes it; the epoch when it is none. -/
def readTime (text : String) : Timestamp :=
  (Timestamp.ofRfc3339? text).getD Timestamp.epoch

/-- When the file was created. -/
def addedAt (file : File) : Timestamp := readTime file.createdTime

/-- The file as a drive shows it. -/
def driveItem (file : File) : DriveItem :=
  { id := file.id, name := file.name, size := file.sizeInBytes
    kind := if file.isFolder then .folder else .file
    mediaType := file.mediaType, createdAt := file.addedAt
    modifiedAt := readTime file.modifiedTime
    parentId := file.parentId, hash := file.hash, downloadLink := file.mediaUrl?, path := "" }

end File

/-- One page of files. -/
structure FileList where
  files : List File
  /-- The token of the next page; empty on the last one. -/
  nextToken : String
  deriving DecidableEq, Repr

namespace FileList

def ofJson? (value : Json) : Option FileList := do
  let fields ← value.fields? ["files", "next_page_token"]
  return {
    files := ← fields.withDefault "files" [] (Json.list? File.ofJson?)
    nextToken := ← fields.withDefault "next_page_token" "" Json.text? }

def toJson (list : FileList) : Json :=
  .object [("files", .array (list.files.map File.toJson)),
    ("next_page_token", .string list.nextToken)]

/-- The token of the next page, if there is one. -/
def next? (list : FileList) : Option String :=
  if list.nextToken.isEmpty then none else some list.nextToken

end FileList

/-- Which files of a folder are wanted; files in the trash never are. -/
structure FileFilter where
  /-- The folder; empty for the root of the drive. -/
  parentId : String
  limit : Nat
  pageToken : Option String
  /-- Leaves out downloads that have not finished. -/
  completedOnly : Bool
  kind : Option String
  mediaType : Option String
  deriving DecidableEq, Repr

namespace FileFilter

/-- The finished files of a folder, as many on a page as the service allows. -/
def completed (parentId : String) (pageToken : Option String) : FileFilter :=
  ⟨parentId, 500, pageToken, true, none, none⟩

/-- All files of a folder, some on a page. -/
def any (parentId : String) (limit : Nat) : FileFilter :=
  ⟨parentId, limit, none, false, none, none⟩

end FileFilter

end StoreGate.PikPak
