import StoreGate.Proofs.Drive.RecursiveListings
/-!
# Looking through the pages of a folder

A folder is looked up by its name, and videos are listed, one page after another.  What is found
depends on the items that the pages hold together, and not on where one page ends and the next one
begins.  A look-up reads the pages up to the first one that holds what is wanted.
-/

namespace StoreGate

namespace Contents

variable {Entry Page α : Type}

/-- The tokens with which the first pages of a folder are asked for. -/
def tokens (answer : Option String → Outcome Page) (next? : Page → Option String) :
    (count : Nat) → (token : Option String) → List (Option String)
  | 0, _ => []
  | count + 1, token =>
    token :: match answer token with
      | .error _ => []
      | .ok page =>
        match next? page with
        | none => []
        | some further => tokens answer next? count (some further)

/-- What a search through the pages finds: the first entry that is wanted, unless the drive fails
before it gets there. -/
def sought (wanted : Entry → Bool) (contents : Contents Entry) : Outcome (Option Entry) :=
  match contents.entries.find? wanted, contents.fault with
  | some entry, _ => .ok (some entry)
  | none, some failure => .error failure
  | none, none => .ok none

/-- The number of pages that a search asks for: those up to the first one that holds a wanted entry,
or as many as there are. -/
def searched (wanted : Entry → Bool) (contents : Contents Entry) : Nat :=
  match contents.pages.findIdx? (·.any wanted) with
  | some index => index + 1
  | none => contents.requests

/-- What a selection from all pages gives, unless the drive fails. -/
def selected (select : List Entry → List α) (contents : Contents Entry) : Outcome (List α) :=
  match contents.fault with
  | some failure => .error failure
  | none => .ok (select contents.entries)

variable {wanted : Entry → Bool} {page : List Entry} {pages : List (List Entry)}
  {fault : Option Failure}

theorem tokens_one (answer : Option String → Outcome Page) (next? : Page → Option String)
    (token : Option String) : tokens answer next? 1 token = [token] := by
  rw [tokens]
  cases answer token with
  | error failure => rfl
  | ok page =>
      dsimp only
      cases next? page <;> rfl

theorem tokens_of_more {answer : Option String → Outcome Page} {next? : Page → Option String}
    {token : Option String} {page : Page} {further : String} (answered : answer token = .ok page)
    (named : next? page = some further) (count : Nat) :
    tokens answer next? (count + 1) token = token :: tokens answer next? count (some further) := by
  rw [tokens, answered]
  dsimp only
  rw [named]

theorem entries_cons : (⟨page :: pages, fault⟩ : Contents Entry).entries =
    page ++ (⟨pages, fault⟩ : Contents Entry).entries :=
  List.flatten_cons

theorem requests_cons : (⟨page :: pages, fault⟩ : Contents Entry).requests =
    (⟨pages, fault⟩ : Contents Entry).requests + 1 := by
  simp only [requests, List.length_cons]
  omega

theorem sought_of_found {entry : Entry} (found : page.find? wanted = some entry) :
    (⟨page :: pages, fault⟩ : Contents Entry).sought wanted = .ok (some entry) := by
  rw [sought, entries_cons, List.find?_append, found]
  rfl

theorem sought_of_not_found (absent : page.find? wanted = none) :
    (⟨page :: pages, fault⟩ : Contents Entry).sought wanted =
      (⟨pages, fault⟩ : Contents Entry).sought wanted := by
  rw [sought, entries_cons, List.find?_append, absent, Option.none_or]
  rfl

theorem searched_of_found {entry : Entry} (found : page.find? wanted = some entry) :
    (⟨page :: pages, fault⟩ : Contents Entry).searched wanted = 1 := by
  have holds : page.any wanted = true :=
    List.any_eq_true.mpr ⟨entry, List.mem_of_find?_eq_some found, List.find?_some found⟩
  rw [searched, List.findIdx?_cons, if_pos holds]

theorem searched_of_not_found (absent : page.find? wanted = none) :
    (⟨page :: pages, fault⟩ : Contents Entry).searched wanted =
      (⟨pages, fault⟩ : Contents Entry).searched wanted + 1 := by
  have lacks : ¬ page.any wanted = true := by
    rw [List.any_eq_true]
    rintro ⟨entry, member, isWanted⟩
    exact List.find?_eq_none.mp absent entry member isWanted
  rw [searched, List.findIdx?_cons, if_neg lacks, requests_cons, searched]
  cases pages.findIdx? (·.any wanted) <;> rfl

end Contents

section Loops

variable {World Entry Page α : Type} {answer : Option String → Outcome Page}
  {next? : Page → Option String} {entries : Page → List Entry} {token : Option String}
  {contents : Contents Entry} {fetch : Option String → Action World Page} {budget : Nat}
  {reached : List (Option String) → World → Prop}
  (fetched : ∀ asked token, (fetch token).Leads (reached asked) (reached (asked ++ [token]))
    (Action.resultOf (answer token)))

include fetched

/-- A search finds the first wanted entry of the joined pages, and asks for no page behind it.  The
tokens that have been asked for tell what the world has become. -/
theorem leads_searchPages (wanted : Entry → Bool)
    (follow : Contents.Follow answer next? entries token contents)
    (enough : contents.requests ≤ budget) (asked : List (Option String)) :
    (Action.searchPages fetch next? (fun page => (entries page).find? wanted) budget token).Leads
      (reached asked)
      (reached (asked ++ Contents.tokens answer next? (contents.searched wanted) token))
      (Action.resultOf (contents.sought wanted)) := by
  -- What the rest of a search asks for comes behind the token of its first page.
  induction follow generalizing budget asked with
  | @fault token failure failed =>
      have first := fetched asked token
      rw [failed] at first
      cases budget with
      | zero => cases enough
      | succ budget =>
          rw [show (⟨[], some failure⟩ : Contents Entry).searched wanted = 1 from rfl,
            Contents.tokens_one]
          exact first.bind_error
  | @last token page answered ends =>
      have first := fetched asked token
      rw [answered] at first
      cases budget with
      | zero => cases enough
      | succ budget =>
          cases found : (entries page).find? wanted with
          | some entry =>
              rw [Contents.sought_of_found found, Contents.searched_of_found found,
                Contents.tokens_one]
              refine first.bind_ok ?_
              dsimp only
              rw [found]
              exact Action.leads_pure (some entry)
          | none =>
              rw [Contents.sought_of_not_found found, Contents.searched_of_not_found found]
              refine (Contents.tokens_one answer next? token ▸ first).bind_ok ?_
              dsimp only
              rw [found, ends]
              exact Action.leads_pure none
  | @more token page further pages fault answered named rest ih =>
      have first := fetched asked token
      rw [answered] at first
      rw [Contents.requests_cons] at enough
      cases budget with
      | zero => cases enough
      | succ budget =>
          cases found : (entries page).find? wanted with
          | some entry =>
              rw [Contents.sought_of_found found, Contents.searched_of_found found,
                Contents.tokens_one]
              refine first.bind_ok ?_
              dsimp only
              rw [found]
              exact Action.leads_pure (some entry)
          | none =>
              have goesOn := ih (Nat.le_of_succ_le_succ enough) (asked ++ [token])
              rw [List.append_assoc] at goesOn
              rw [Contents.sought_of_not_found found, Contents.searched_of_not_found found,
                Contents.tokens_of_more answered named]
              refine first.bind_ok ?_
              dsimp only
              rw [found, named]
              exact goesOn

/-- What can be selected from every page by itself is selected from the joined pages, and all of
them are asked for. -/
theorem leads_overPages (select : List Entry → List α)
    (joins : ∀ first second, select (first ++ second) = select first ++ select second)
    (follow : Contents.Follow answer next? entries token contents)
    (enough : contents.requests ≤ budget) (asked : List (Option String)) :
    (Action.overPages fetch next? (fun page => pure (select (entries page))) budget token).Leads
      (reached asked) (reached (asked ++ Contents.tokens answer next? contents.requests token))
      (Action.resultOf (contents.selected select)) := by
  induction follow generalizing budget asked with
  | @fault token failure failed =>
      have first := fetched asked token
      rw [failed] at first
      cases budget with
      | zero => cases enough
      | succ budget =>
          rw [show (⟨[], some failure⟩ : Contents Entry).requests = 1 from rfl,
            Contents.tokens_one]
          exact first.bind_error
  | @last token page answered ends =>
      have first := fetched asked token
      rw [answered] at first
      cases budget with
      | zero => cases enough
      | succ budget =>
          rw [show (⟨[entries page], none⟩ : Contents Entry).requests = 1 from rfl,
            Contents.tokens_one, Contents.selected, Contents.entries, List.flatten_singleton]
          refine first.bind_ok ((Action.leads_pure (select (entries page))).bind_ok ?_)
          rw [ends]
          exact Action.leads_pure (select (entries page))
  | @more token page further pages fault answered named rest ih =>
      have first := fetched asked token
      rw [answered] at first
      rw [Contents.requests_cons] at enough
      cases budget with
      | zero => cases enough
      | succ budget =>
          have goesOn := ih (Nat.le_of_succ_le_succ enough) (asked ++ [token])
          rw [List.append_assoc] at goesOn
          rw [Contents.requests_cons, Contents.tokens_of_more answered named]
          refine first.bind_ok ((Action.leads_pure (select (entries page))).bind_ok ?_)
          rw [named]
          cases fault with
          | some failure => exact goesOn.bind_error
          | none =>
              rw [Contents.selected, Contents.entries_cons, joins]
              exact goesOn.bind_ok (Action.leads_pure _)

end Loops

namespace DriveBrowser

/-- Asks for a page of the items of a kind in a folder. -/
def kindQuery (kind : DriveKind) (parentId : String) (token : Option String) : FileQuery :=
  { FileQuery.page parentId token with kind := some kind }

/-- Whether an item is a folder with a name. -/
def isFolderNamed (name : String) (item : DriveItem) : Bool :=
  item.isFolder && item.name == name

/-- Whether pages show the children of a folder in order, be it all of them or only those of the
kind that is asked for. -/
def Shows (kind : DriveKind) (children : List DriveItem) (contents : Contents DriveItem) : Prop :=
  contents.entries = children ∨ contents.entries = children.filter (·.kind = kind)

theorem isFolderNamed_iff {name : String} {item : DriveItem} :
    isFolderNamed name item = true ↔ item.kind = .folder ∧ item.name = name := by
  simp [isFolderNamed, DriveItem.isFolder]

theorem find?_of_shows {name : String} {children : List DriveItem} {contents : Contents DriveItem}
    (shows : Shows .folder children contents) :
    contents.entries.find? (isFolderNamed name) = children.find? (isFolderNamed name) := by
  rcases shows with all | folders
  · rw [all]
  · rw [folders, List.find?_filter]
    congr 1
    funext item
    have isKind : isFolderNamed name item = true → item.kind = .folder :=
      fun named => (isFolderNamed_iff.mp named).1
    cases named : isFolderNamed name item with
    | true => simp [isKind named]
    | false => simp

theorem filter_of_shows {children : List DriveItem} {contents : Contents DriveItem}
    (shows : Shows .file children contents) :
    contents.entries.filter DriveItem.isVideo = children.filter DriveItem.isVideo := by
  rcases shows with all | files
  · rw [all]
  · rw [files, List.filter_filter]
    congr 1
    funext item
    have isKind : item.isVideo = true → item.kind = .file := by
      intro isVideo
      simp only [DriveItem.isVideo, Bool.and_eq_true, decide_eq_true_eq] at isVideo
      exact isVideo.1
    cases video : item.isVideo with
    | true => simp [isKind video]
    | false => simp

section Pages

variable {World : Type} {browser : DriveBrowser World} {asking : Caller World}
  {caller : Caller (Recorded World FileQuery)} {parentId : String} {steady : World → Prop}
  {answers : DriveKind → Option String → Outcome DrivePage} {kind : DriveKind} (budget : Nat)

/-- The world is steady, and pages have been asked for with some tokens since the start. -/
def HasAsked (steady : World → Prop) (query : Option String → FileQuery) (start : List FileQuery)
    (asked : List (Option String)) (now : Recorded World FileQuery) : Prop :=
  steady now.1 ∧ now.2 = start ++ asked.map query

theorem leads_fetch (active : ∀ whole, steady whole.1 → caller.isCancelled whole = false)
    (answered : ∀ token, (browser.listFiles asking (kindQuery kind parentId token)).Gives steady
      (Action.resultOf (answers kind token)))
    (start : List FileQuery) (asked : List (Option String)) (token : Option String) :
    ((browser.recorded asking budget).fetch caller (kindQuery kind parentId token)).Leads
      (HasAsked steady (kindQuery kind parentId) start asked)
      (HasAsked steady (kindQuery kind parentId) start (asked ++ [token]))
      (Action.resultOf (answers kind token)) := by
  refine Action.Leads.check_bind (fun whole holds => active whole holds.1) ?_
  rintro ⟨world, requests⟩ ⟨isSteady, recorded⟩
  obtain ⟨given, stays⟩ := answered token world isSteady
  refine ⟨given, stays, ?_⟩
  rw [List.map_append, ← List.append_assoc]
  exact congrArg (· ++ [kindQuery kind parentId token]) recorded

variable {budget}

theorem leads_folderByName (name : String) {folders : Contents DriveItem}
    (active : ∀ whole, steady whole.1 → caller.isCancelled whole = false)
    (answered : ∀ token, (browser.listFiles asking (kindQuery .folder parentId token)).Gives steady
      (Action.resultOf (answers .folder token)))
    (pages : Contents.Follow (answers .folder) DrivePage.next DrivePage.files none folders)
    (enough : folders.requests ≤ budget) (start : List FileQuery) :
    ((browser.recorded asking budget).folderByName caller parentId name).Leads
      (HasAsked steady (kindQuery .folder parentId) start [])
      (HasAsked steady (kindQuery .folder parentId) start (Contents.tokens (answers .folder)
        DrivePage.next (folders.searched (isFolderNamed name)) none))
      (match folders.entries.find? (isFolderNamed name), folders.fault with
        | some folder, _ => .ok folder
        | none, some failure => .error (.failure failure)
        | none, none => .error (.failure (.notFound ("folder not found: " ++ name)))) := by
  have searched := leads_searchPages (leads_fetch budget active answered start)
    (isFolderNamed name) pages enough []
  rw [Contents.sought] at searched
  cases found : folders.entries.find? (isFolderNamed name) with
  | some folder =>
      rw [found] at searched
      exact searched.bind_ok (Action.leads_pure folder)
  | none =>
      rw [found] at searched
      cases failed : folders.fault with
      | some failure =>
          rw [failed] at searched
          exact searched.bind_error
      | none =>
          rw [failed] at searched
          exact searched.bind_ok (Action.leads_fail _)

theorem leads_listVideos {files : Contents DriveItem}
    (active : ∀ whole, steady whole.1 → caller.isCancelled whole = false)
    (answered : ∀ token, (browser.listFiles asking (kindQuery .file parentId token)).Gives steady
      (Action.resultOf (answers .file token)))
    (pages : Contents.Follow (answers .file) DrivePage.next DrivePage.files none files)
    (enough : files.requests ≤ budget) (start : List FileQuery) :
    ((browser.recorded asking budget).listVideos caller parentId).Leads
      (HasAsked steady (kindQuery .file parentId) start [])
      (HasAsked steady (kindQuery .file parentId) start (Contents.tokens (answers .file)
        DrivePage.next files.requests none))
      (match files.fault with
        | some failure => .error (.failure failure)
        | none => .ok (files.entries.filter DriveItem.isVideo)) := by
  have listed := leads_overPages (leads_fetch budget active answered start)
    (List.filter DriveItem.isVideo) (fun _ _ => List.filter_append _ _) pages enough []
  rw [Contents.selected] at listed
  cases failed : files.fault with
  | some failure =>
      rw [failed] at listed
      exact listed
  | none =>
      rw [failed] at listed
      exact listed

end Pages

/-- Looking for a folder by its name gives the first child that is a folder and has this name,
however the children are divided into pages and whether or not the drive shows children of other
kinds as well.  The pages that are asked for are those up to the first one that holds such a folder.
If the drive fails before that, the failure is given, and otherwise it is not found exactly if no
child is one.  Listing videos gives the children that are files of a video type in order, and asks
for every page. -/
theorem lookups_read_joined_pages {World : Type} (browser : DriveBrowser World)
    (asking : Caller World) (caller : Caller (Recorded World FileQuery)) (parentId name : String)
    (steady : World → Prop) (answers : DriveKind → Option String → Outcome DrivePage)
    (children : List DriveItem) (folders files : Contents DriveItem) (budget : Nat)
    (active : ∀ whole, steady whole.1 → caller.isCancelled whole = false)
    (answered : ∀ kind token, (browser.listFiles asking (kindQuery kind parentId token)).Gives
      steady (Action.resultOf (answers kind token)))
    (folderPages : Contents.Follow (answers .folder) DrivePage.next DrivePage.files none folders)
    (filePages : Contents.Follow (answers .file) DrivePage.next DrivePage.files none files)
    (showsFolders : Shows .folder children folders) (showsFiles : Shows .file children files)
    (enoughForFolders : folders.requests ≤ budget) (enoughForFiles : files.requests ≤ budget)
    (start : Recorded World FileQuery) (isSteady : steady start.1) :
    let looked := ((browser.recorded asking budget).folderByName caller parentId name).runOn start
    let listed := ((browser.recorded asking budget).listVideos caller parentId).runOn start
    looked.1 = (match children.find? (isFolderNamed name), folders.fault with
      | some folder, _ => .ok folder
      | none, some failure => .error (.failure failure)
      | none, none => .error (.failure (.notFound ("folder not found: " ++ name)))) ∧
    (folders.fault = none →
      (looked.1 = .error (.failure (.notFound ("folder not found: " ++ name))) ↔
        ∀ child ∈ children, ¬ (child.kind = .folder ∧ child.name = name))) ∧
    looked.2.2 = start.2 ++ (Contents.tokens (answers .folder) DrivePage.next
      (folders.searched (isFolderNamed name)) none).map (kindQuery .folder parentId) ∧
    listed.1 = (match files.fault with
      | some failure => .error (.failure failure)
      | none => .ok (children.filter fun child =>
          child.kind = .file ∧ child.mediaType ∈ videoTypes)) ∧
    listed.2.2 = start.2 ++ (Contents.tokens (answers .file) DrivePage.next
      files.requests none).map (kindQuery .file parentId) := by
  have fresh : ∀ query, HasAsked steady query start.2 [] start :=
    fun query => ⟨isSteady, (List.append_nil start.2).symm⟩
  obtain ⟨found, _, askedFolders⟩ := leads_folderByName name active (answered .folder) folderPages
    enoughForFolders start.2 start (fresh _)
  obtain ⟨given, _, askedFiles⟩ := leads_listVideos active (answered .file) filePages
    enoughForFiles start.2 start (fresh _)
  rw [find?_of_shows showsFolders] at found
  rw [filter_of_shows showsFiles] at given
  refine ⟨found, fun answeredAll => ?_, askedFolders, ?_, askedFiles⟩
  · rw [found, answeredAll]
    cases first : children.find? (isFolderNamed name) with
    | some folder =>
        refine iff_of_false (fun contradictory => nomatch contradictory) fun none => ?_
        exact none folder (List.mem_of_find?_eq_some first)
          (isFolderNamed_iff.mp (List.find?_some first))
    | none =>
        refine iff_of_true rfl fun child member isFolder => ?_
        exact List.find?_eq_none.mp first child member (isFolderNamed_iff.mpr isFolder)
  · rw [given]
    have same : DriveItem.isVideo =
        fun child => decide (child.kind = .file ∧ child.mediaType ∈ videoTypes) := by
      funext child
      simp [DriveItem.isVideo]
    rw [same]

section Films

def film : DriveItem := { named "film" "Film" .file with mediaType := "video/mp4" }

def clip : DriveItem := { named "clip" "Clip" .file with mediaType := "video/webm" }

/-- A file and two folders have the same name. -/
def filmChildren : List DriveItem :=
  [named "reel" "Films" .file, film, named "disc" "Films" .folder, named "copy" "Films" .folder,
    clip]

/-- A drive that shows everything when it is asked for folders, with an empty page in between, and
only files when it is asked for those. -/
def filmAnswers (kind : DriveKind) (token : Option String) : Outcome DrivePage :=
  match kind with
  | .folder =>
    if token = none then .ok (.make [named "reel" "Films" .file, film] (some "2"))
    else if token = some "2" then .ok (.make [] (some "3"))
    else if token = some "3" then .ok (.make [named "disc" "Films" .folder] (some "4"))
    else .ok (.make [named "copy" "Films" .folder, clip] (some ""))
  | .file =>
    if token = none then .ok (.make [named "reel" "Films" .file, film] (some "2"))
    else .ok (.make [clip] none)

def folderContents : Contents DriveItem :=
  ⟨[[named "reel" "Films" .file, film], [], [named "disc" "Films" .folder],
    [named "copy" "Films" .folder, clip]], none⟩

def fileContents : Contents DriveItem :=
  ⟨[[named "reel" "Films" .file, film], [clip]], none⟩

theorem follow_folderContents : Contents.Follow (filmAnswers .folder) DrivePage.next
    DrivePage.files none folderContents := by
  let first := DrivePage.make [named "reel" "Films" .file, film] (some "2")
  let second := DrivePage.make [] (some "3")
  let third := DrivePage.make [named "disc" "Films" .folder] (some "4")
  let fourth := DrivePage.make [named "copy" "Films" .folder, clip] (some "")
  exact .more first rfl rfl (.more second rfl rfl (.more third rfl rfl (.last fourth rfl rfl)))

theorem follow_fileContents : Contents.Follow (filmAnswers .file) DrivePage.next
    DrivePage.files none fileContents := by
  let first := DrivePage.make [named "reel" "Films" .file, film] (some "2")
  let second := DrivePage.make [clip] none
  exact .more first rfl rfl (.last second rfl rfl)

def filmBrowser : DriveBrowser Unit where
  listFiles _ query := Action.ofOutcome (filmAnswers (query.kind.getD .file) query.pageToken)
  fileDetails _ id := Action.fail (.notFound id)
  pageBudget := 4

/-- The folder behind the empty page is found, and the page behind it is not asked for. -/
theorem lookups_read_joined_pages_films :
    (Contents.Follow (filmAnswers .folder) DrivePage.next DrivePage.files none folderContents ∧
      Contents.Follow (filmAnswers .file) DrivePage.next DrivePage.files none fileContents ∧
      Shows .folder filmChildren folderContents ∧ Shows .file filmChildren fileContents ∧
      folderContents.requests ≤ 4 ∧ fileContents.requests ≤ 4) ∧
    ((filmBrowser.recorded ⟨none, none, fun _ => false⟩ 4).folderByName
        ⟨none, none, fun _ => false⟩ "root" "Films").runOn ((), []) =
      (.ok (named "disc" "Films" .folder),
        ((), [none, some "2", some "3"].map (kindQuery .folder "root"))) ∧
    ((filmBrowser.recorded ⟨none, none, fun _ => false⟩ 4).listVideos
        ⟨none, none, fun _ => false⟩ "root").runOn ((), []) =
      (.ok [film, clip], ((), [none, some "2"].map (kindQuery .file "root"))) := by
  have showsFolders : Shows .folder filmChildren folderContents := .inl rfl
  have showsFiles : Shows .file filmChildren fileContents := .inr (by decide)
  obtain ⟨found, _, askedFolders, given, askedFiles⟩ := lookups_read_joined_pages filmBrowser
    ⟨none, none, fun _ => false⟩ ⟨none, none, fun _ => false⟩ "root" "Films" (fun _ => True)
    filmAnswers filmChildren folderContents fileContents 4 (fun _ _ => rfl)
    (fun kind token => by cases kind <;> exact Action.gives_ofOutcome _) follow_folderContents
    follow_fileContents showsFolders showsFiles (by decide) (by decide) ((), []) trivial
  exact ⟨⟨follow_folderContents, follow_fileContents, showsFolders, showsFiles, by decide,
    by decide⟩, Prod.ext found (Prod.ext rfl askedFolders), Prod.ext given (Prod.ext rfl askedFiles)⟩

end Films

end DriveBrowser

end StoreGate
