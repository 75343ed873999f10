import StoreGate.PikPak.Client
import StoreGate.Proofs.Http.Fetching
import StoreGate.Proofs.Url.PathSegments
/-!
# The address that is asked for a file

A file is asked for with its identifier behind the address of the folder of all files, and with the
access token of the account.  Whatever the identifier is, the request goes to the host of the drive.
It asks for that file only if the identifier is plain; with another one it asks for something else.
-/

namespace StoreGate

namespace PikPak

/-- Whether an address asks for a file of a drive whose path consists of some folders. -/
structure AsksForFile (folders : List String) (id : String) (url : Url) : Prop where
  path : ∃ segment, url.path = .segments (folders ++ ["files", segment]) ∧
    PercentEncoding.decode segment = Utf8.encode id
  query : url.query = some "usage=FETCH"

namespace Client

variable {World : Type} (client : Client World)

/-- The request for the address of a file, with an access token. -/
def fileRequest (key : String) (url : Url) : Http.Request :=
  let request := Http.getRequest client.http.userAgent url [("authorization", "Bearer " ++ key)]
  { request with url := request.url.withPairs [("usage", "FETCH")] }

/-- The client with a record of what it sends. -/
def logged : Client (Recorded World Http.Request) :=
  { client with http := client.http.logged }

theorem file_sends {key id : String} {url : Url}
    (parsed : Url.parse (client.driveBase ++ "/files/" ++ id) = .ok url)
    (fetchable : Http.IsFetchable url) (sendable : Http.isHeaderValue ("Bearer " ++ key) = true)
    (world : World) :
    ∃ later, ((client.logged.file key id).runOn (world, [])).2.2 =
      client.fileRequest key url :: later := by
  have made : Http.Draft.make "GET" (client.driveBase ++ ("/files/" ++ id)) =
      .ok ⟨"GET", Http.bare url, Http.authorization url, []⟩ := by
    rw [← String.append_assoc]
    exact Http.make_of_host parsed fetchable.host
  have drafted : (client.logged.draft "GET" ("/files/" ++ id) key).pairs [("usage", "FETCH")] =
      .ok ⟨"GET", (Http.bare url).withPairs [("usage", "FETCH")],
        Http.authorization url ++ [("authorization", "Bearer " ++ key)], []⟩ := by
    change Http.Draft.pairs ((Http.Draft.make "GET"
      (client.driveBase ++ ("/files/" ++ id))).bearer key) _ = _
    rw [made, Http.bearer_of_value sendable]
    rfl
  rw [file, drafted]
  exact client.http.call_sends .pikPak "Failed to get file" File.ofJson? fetchable.web world

section Addresses

/-- What is read behind the host of a drive when a file is asked for. -/
def behindHost (folders : List String) (id : String) : List Char :=
  Url.kept (Url.slashed (folders ++ ["files"]) ++ id.toList)

variable {origin : Url.Origin} {folders : List String} {home : Url} {key : String}

theorem isFolder_of_mem_files (named : ∀ folder ∈ folders, Url.IsFolder folder) :
    ∀ folder ∈ folders ++ ["files"], Url.IsFolder folder := by
  intro folder member
  rcases List.mem_append.mp member with isNamed | isFiles
  · exact named folder isNamed
  · rw [List.mem_singleton.mp isFiles]
    exact ⟨by simp; decide, by simp, by simp, by decide⟩

/-- A plain identifier is asked for, and nothing else is asked for as if it were. -/
theorem fileRequest_asks_iff (named : ∀ folder ∈ folders, Url.IsFolder folder) (home : Url)
    (key id : String) :
    AsksForFile folders id (client.fileRequest key (home.reach (behindHost folders id))).url ↔
      Url.IsPlainEnding id := by
  have allNamed := isFolder_of_mem_files named
  have isPlain := Url.isPlainEnding_iff allNamed id home
  simp only [List.append_assoc, List.cons_append, List.nil_append] at isPlain
  -- The path decides alone: what becomes a query or a fragment is missing from the segment.
  refine ⟨fun asks => isPlain.mp asks.path, fun plain => ⟨isPlain.mpr plain, ?_⟩⟩
  have noQuery : (home.reach (behindHost folders id)).query = none :=
    congrArg Url.query (Url.reach_of_plainEnding allNamed plain home)
  exact Url.query_withPairs noQuery ("usage", "FETCH") []

theorem file_sends_behind_host (based : client.driveBase = origin.folderAddress folders)
    (reachable : Url.parse (origin.address []) = .ok home) (fetchable : Http.IsFetchable home)
    (sendable : Http.isHeaderValue ("Bearer " ++ key) = true) (id : String) (world : World) :
    ∃ later, ((client.logged.file key id).runOn (world, [])).2.2 =
      client.fileRequest key (home.reach (behindHost folders id)) :: later := by
  have slashes : "/files/" = "/" ++ "files" ++ "/" := rfl
  have addressed : client.driveBase ++ "/files/" ++ id =
      origin.address ('/' :: (Url.slashed (folders ++ ["files"]) ++ id.toList)) := by
    rw [← origin.folderAddress_append, origin.folderAddress_concat, based, slashes,
      ← String.append_assoc, ← String.append_assoc]
  have bare : Url.parse (origin.address (List.replicate 0 '/')) = .ok home := reachable
  have parsed := origin.parse_behind_slash bare
    (Url.slashed (folders ++ ["files"]) ++ id.toList)
  rw [← addressed] at parsed
  exact client.file_sends parsed ⟨fetchable.host, fetchable.web⟩ sendable world

/-- Whatever the identifier, what is sent first to get a file goes to the host of the drive, with
the access token.  It asks for the file of that identifier, in one segment and with nothing but the
usage as a query, exactly if the identifier is plain. -/
theorem file_asked_for_iff (named : ∀ folder ∈ folders, Url.IsFolder folder)
    (based : client.driveBase = origin.folderAddress folders)
    (reachable : Url.parse (origin.address []) = .ok home) (fetchable : Http.IsFetchable home)
    (sendable : Http.isHeaderValue ("Bearer " ++ key) = true) (id : String) (world : World) :
    ∃ request later,
      ((client.logged.file key id).runOn (world, [])).2.2 = request :: later ∧
      request.method = "GET" ∧ ("authorization", "Bearer " ++ key) ∈ request.headers ∧
      request.url.scheme = home.scheme ∧ request.url.hostText = home.hostText ∧
      (AsksForFile folders id request.url ↔ Url.IsPlainEnding id) := by
  obtain ⟨later, sent⟩ :=
    client.file_sends_behind_host based reachable fetchable sendable id world
  refine ⟨_, later, sent, rfl, ?_, rfl, rfl, client.fileRequest_asks_iff named home key id⟩
  exact List.mem_append_right _ (List.mem_append_right _ List.mem_cons_self)

end Addresses

section Standard

/-- The host of the standard drive. -/
def standardOrigin : Url.Origin where
  scheme := "https".toList
  authority := "api-drive.mypikpak.com".toList
  web := Url.isWebScheme_https
  named := by simp
  host := by simp [Url.IsHostChar, Url.endsAuthority, Url.isSlash]
  visible := by simp

/-- What is read of the address of that host. -/
def standardHome : Url :=
  ⟨"https", "", none, true, some (.domain "api-drive.mypikpak.com"), none, .segments [""], none,
    none⟩

theorem standardDriveBase_eq :
    standardDriveBase = standardOrigin.folderAddress ["drive", "v1"] := by
  rfl

set_option maxRecDepth 4096 in
theorem parse_standardOrigin : Url.parse (standardOrigin.address []) = .ok standardHome := by
  rfl

/-- A client of the standard drive that is never answered. -/
def silentClient : Client Unit where
  http := ⟨fun _ => pure none, "gate", 0, none⟩
  driveBase := standardDriveBase
  userBase := standardUserBase

/-- Blanks, letters beyond ASCII and percent signs without digits leave an identifier plain. -/
theorem file_asked_for_iff_percent : ∃ request later,
    ((silentClient.logged.file "tok" "VN1 %é").runOn ((), [])).2.2 = request :: later ∧
      request.url.scheme = "https" ∧ request.url.hostText = "api-drive.mypikpak.com" ∧
      AsksForFile ["drive", "v1"] "VN1 %é" request.url := by
  have named : ∀ folder ∈ ["drive", "v1"], Url.IsFolder folder := by
    simp only [List.forall_mem_cons]
    exact ⟨⟨by simp; decide, by simp, by simp, by decide⟩,
      ⟨by simp; decide, by simp, by simp, by decide⟩, nofun⟩
  have sendable : Http.isHeaderValue ("Bearer " ++ "tok") = true := rfl
  obtain ⟨request, later, sent, _, _, scheme, host, asks⟩ :=
    silentClient.file_asked_for_iff named standardDriveBase_eq parse_standardOrigin
      ⟨rfl, .inr rfl⟩ sendable "VN1 %é" ()
  exact ⟨request, later, sent, scheme, host, asks.mpr ⟨by simp, by simp, by decide, rfl⟩⟩

/-- Dots and a slash in an identifier lead to the tasks of the account, with its access token. -/
theorem file_of_dots_reaches_tasks : ∃ request later,
    ((silentClient.logged.file "tok" "../tasks").runOn ((), [])).2.2 = request :: later ∧
      ("authorization", "Bearer tok") ∈ request.headers ∧
      request.url.text = "https://api-drive.mypikpak.com/drive/v1/tasks?usage=FETCH" ∧
      ¬ AsksForFile ["drive", "v1"] "../tasks" request.url := by
  have sendable : Http.isHeaderValue ("Bearer " ++ "tok") = true := rfl
  obtain ⟨later, sent⟩ := silentClient.file_sends_behind_host standardDriveBase_eq
    parse_standardOrigin ⟨rfl, .inr rfl⟩ sendable "../tasks" ()
  have path : (silentClient.fileRequest "tok"
      (standardHome.reach (behindHost ["drive", "v1"] "../tasks"))).url.path =
        .segments ["drive", "v1", "tasks"] :=
    rfl
  refine ⟨_, later, sent, List.mem_append_right _ (List.mem_append_right _ List.mem_cons_self),
    rfl, fun asks => ?_⟩
  obtain ⟨segment, filePath, _⟩ := asks.path
  rw [path] at filePath
  simp at filePath

end Standard

end Client

end PikPak

end StoreGate
