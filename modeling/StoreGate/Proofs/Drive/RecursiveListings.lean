import StoreGate.Proofs.Drive.Browsing
import StoreGate.Proofs.RecordedCalls
/-!
# Listing a tree with and without its folders

The recursive listing of a folder gives every item of the unfolded tree in depth-first order, or the
failure that a walk in this order meets first.  The flat listing asks for the same pages in the same
order and gives the same items without the folders, or the same failure.
-/

namespace StoreGate

namespace Action

variable {World Page α β γ : Type} {change : List β → List α}

theorem runOn_map (change : α → β) (action : Action World α) (world : World) :
    (change <$> action).runOn world =
      ((action.runOn world).1.map change, (action.runOn world).2) := by
  rw [map_eq_pure_bind, runOn_bind]
  cases action.runOn world with
  | mk result after => cases result <;> rfl

theorem runOn_map_eq_ok_iff {change : α → β} {action : Action World α} {world after : World}
    {value : β} : (change <$> action).runOn world = (.ok value, after) ↔
      ∃ given, action.runOn world = (.ok given, after) ∧ change given = value := by
  rw [runOn_map]
  cases action.runOn world with
  | mk result left => cases result <;> simp [Except.map, and_comm]

/-- Visits that change what other visits give, list by list, change the whole. -/
theorem collect_change (nothing : change [] = [])
    (joined : ∀ found others, change (found ++ others) = change found ++ change others)
    {visit : γ → Action World (List β)} {changed : γ → Action World (List α)} {members : List γ}
    (visited : ∀ member ∈ members, changed member = change <$> visit member) :
    collect changed members = change <$> collect visit members := by
  induction members with
  | nil => rw [collect, collect, map_pure, nothing]
  | cons first rest ih =>
      rw [collect, collect, visited first List.mem_cons_self,
        ih fun member isMember => visited member (List.mem_cons_of_mem _ isMember)]
      simp only [map_bind, bind_map_left, map_pure, joined]

theorem overPages_change
    (joined : ∀ found others, change (found ++ others) = change found ++ change others)
    {fetch : Option String → Action World Page} {next? : Page → Option String}
    {visit : Page → Action World (List β)} {changed : Page → Action World (List α)}
    (visited : ∀ page, changed page = change <$> visit page) (budget : Nat)
    (token : Option String) :
    overPages fetch next? changed budget token =
      change <$> overPages fetch next? visit budget token := by
  induction budget generalizing token with
  | zero => rfl
  | succ budget ih =>
      rw [overPages, overPages, map_bind]
      refine bind_congr fun page => ?_
      rw [visited, bind_map_left, map_bind]
      refine bind_congr fun found => ?_
      cases next? page with
      | none => rw [map_pure]
      | some further => simp only [ih, map_bind, bind_map_left, map_pure, joined]

end Action

namespace DriveBrowser

variable {World : Type}

/-- A walk that leaves folders out does what a walk over all items does. -/
theorem walk_filesOnly (browser : DriveBrowser World) (caller : Caller World) (rootId : String)
    (levels : Nat) (folderId path : String) :
    browser.walk caller rootId true levels folderId path =
      List.filter (!·.isFolder) <$> browser.walk caller rootId false levels folderId path := by
  induction levels generalizing folderId path with
  | zero => rfl
  | succ levels ih =>
      rw [walk, walk]
      refine Action.overPages_change List.filter_append (fun page =>
        Action.collect_change List.filter_nil List.filter_append fun item _ => ?_) _ _
      dsimp only
      split
      · rename_i isFolder
        rw [ih, bind_map_left, map_bind]
        refine bind_congr fun inside => ?_
        rw [if_pos rfl, if_neg Bool.false_ne_true, map_pure,
          List.filter_cons_of_neg (by simp [isFolder])]
      · rename_i isFile
        rw [map_pure, List.filter_cons_of_pos (by simpa using isFile), List.filter_nil]

/-- What a browser shows to a caller, with the queries put down. -/
def recorded (browser : DriveBrowser World) (asking : Caller World) (pageBudget : Nat) :
    DriveBrowser (Recorded World FileQuery) where
  listFiles _ query := (browser.listFiles asking query).recorded query
  fileDetails _ id := (browser.fileDetails asking id).beside
  pageBudget := pageBudget

/-- What lies below a folder: the folder is at level 0, and the folders of the deepest level are
still looked into. -/
def itemsBelow (contents : String → Contents DriveItem) (folderId : String) :
    List (Sight DriveItem) :=
  folderTree DriveItem.folder? contents (folderLevels + 1) [] folderId

/-- The item that is listed for an item of the tree. -/
def listed? : Sight DriveItem → Option DriveItem
  | .entry place item => some { item with path := "/" ++ "/".intercalate (place ++ [item.name]) }
  | _ => none

theorem shown_eq_listed (sights : List (Sight DriveItem)) :
    sights.flatMap (Sight.shown (shownItem false)) = sights.filterMap listed? := by
  rw [List.filterMap_eq_flatMap_toList]
  congr 1
  funext sight
  cases sight with
  | entry place item =>
      rw [Sight.shown, shownItem, Bool.and_false, if_neg Bool.false_ne_true, pathOf_eq]
      rfl
  | fault place failure => rfl
  | tooDeep place => rfl

/-- The flat listing asks for the same pages as the recursive one, whatever the drive answers and
whether or not the caller gives up, and gives the same failure or the same items without the
folders.  On a drive that stays as it is, the recursive listing gives the items of the unfolded tree
in depth-first order, each folder right in front of what lies below it, or the failure that a walk in
this order meets first; a folder that is too deep lies at level 33, and everything else above it. -/
theorem listRecursive_preorder {World : Type} (browser : DriveBrowser World)
    (asking : Caller World) (caller : Caller (Recorded World FileQuery)) (parentId : String)
    (steady : World → Prop) (answers : String → Option String → Outcome DrivePage)
    (contents : String → Contents DriveItem)
    (active : ∀ whole, steady whole.1 → caller.isCancelled whole = false)
    (answered : ∀ folderId token, (browser.listFiles asking (FileQuery.page folderId token)).Gives
      steady (Action.resultOf (answers folderId token)))
    (finite : ∀ folderId, Contents.Follow (answers folderId) DrivePage.next DrivePage.files none
      (contents folderId)) :
    (∀ (other : Caller (Recorded World FileQuery)) budget start,
      let recursive := ((browser.recorded asking budget).listRecursive other parentId).runOn start
      ((browser.recorded asking budget).listFlat other parentId).runOn start =
        (recursive.1.map (List.filter (!·.isFolder)), recursive.2)) ∧
    (∃ least, ∀ budget, least ≤ budget → ∀ start, steady start.1 →
      (((browser.recorded asking budget).listRecursive caller parentId).runOn start).1 =
        match (itemsBelow contents parentId).findSome? (Sight.failure? (tooDeep parentId)) with
        | some failure => .error (.failure failure)
        | none => .ok ((itemsBelow contents parentId).filterMap listed?)) ∧
    ∀ sight ∈ itemsBelow contents parentId, sight.level ≤ 33 ∧
      (sight.level = 33 ↔ ∃ place, sight = .tooDeep place) := by
  refine ⟨fun other budget start => ?_, ⟨pageRequests DriveItem.folder? contents
    (folderLevels + 1) parentId, fun budget enough start isSteady => ?_⟩, fun sight member =>
      level_of_mem member⟩
  · rw [listFlat, walk_filesOnly, Action.runOn_map]
    rfl
  · have walked : ((browser.recorded asking budget).listRecursive caller parentId).Gives
        (fun whole => steady whole.1) (verdict (tooDeep parentId) (shownItem false)
          (itemsBelow contents parentId)) :=
      gives_walk parentId false active (fun folderId token => (answered folderId token).recorded _)
        finite [] parentId enough
    have result := (walked start isSteady).1
    rw [verdict, shown_eq_listed] at result
    refine result.trans ?_
    cases (itemsBelow contents parentId).findSome? (Sight.failure? (tooDeep parentId)) <;> rfl

section SharedFolder

/-- An item of which a listing shows no more than its name and kind. -/
def named (id name : String) (kind : DriveKind) : DriveItem :=
  ⟨id, name, -1, kind, "", Timestamp.epoch, Timestamp.epoch, "", "", none, ""⟩

/-- A drive whose root lists the same folder on both of its pages. -/
def shelfAnswers (folderId : String) (token : Option String) : Outcome DrivePage :=
  if folderId = "root" then
    match token with
    | none => .ok (.make [named "disc" "First" .folder, named "film" "Film" .file] (some "2"))
    | some _ => .ok (.make [named "disc" "Again" .folder] none)
  else if folderId = "disc" then .ok (.make [named "song" "Song" .file] (some ""))
  else .error (.notFound folderId)

def shelfContents (folderId : String) : Contents DriveItem :=
  if folderId = "root" then
    ⟨[[named "disc" "First" .folder, named "film" "Film" .file],
      [named "disc" "Again" .folder]], none⟩
  else if folderId = "disc" then ⟨[[named "song" "Song" .file]], none⟩
  else ⟨[], some (.notFound folderId)⟩

theorem follow_shelfContents (folderId : String) :
    Contents.Follow (shelfAnswers folderId) DrivePage.next DrivePage.files none
      (shelfContents folderId) := by
  by_cases isRoot : folderId = "root"
  · subst isRoot
    let first := DrivePage.make [named "disc" "First" .folder, named "film" "Film" .file] (some "2")
    let second := DrivePage.make [named "disc" "Again" .folder] none
    exact .more first rfl rfl (.last second rfl rfl)
  · by_cases isDisc : folderId = "disc"
    · subst isDisc
      let only := DrivePage.make [named "song" "Song" .file] (some "")
      exact .last only rfl rfl
    · rw [shelfContents, if_neg isRoot, if_neg isDisc]
      refine .fault ?_
      rw [shelfAnswers, if_neg isRoot, if_neg isDisc]

def shelfBrowser : DriveBrowser Unit where
  listFiles _ query := Action.ofOutcome (shelfAnswers query.parentId query.pageToken)
  fileDetails _ id := Action.fail (.notFound id)
  pageBudget := 1

/-- The shared folder is listed with what lies below it wherever it stands. -/
theorem listRecursive_preorder_shared :
    (∀ folderId, Contents.Follow (shelfAnswers folderId) DrivePage.next DrivePage.files none
      (shelfContents folderId)) ∧
    ∃ least, ∀ budget, least ≤ budget → ∃ after,
      ((shelfBrowser.recorded ⟨none, none, fun _ => false⟩ budget).listRecursive
        ⟨none, none, fun _ => false⟩ "root").runOn ((), []) =
        (.ok [{ named "disc" "First" .folder with path := "/First" },
          { named "song" "Song" .file with path := "/First/Song" },
          { named "film" "Film" .file with path := "/Film" },
          { named "disc" "Again" .folder with path := "/Again" },
          { named "song" "Song" .file with path := "/Again/Song" }], after) ∧
      ((shelfBrowser.recorded ⟨none, none, fun _ => false⟩ budget).listFlat
        ⟨none, none, fun _ => false⟩ "root").runOn ((), []) =
        (.ok [{ named "song" "Song" .file with path := "/First/Song" },
          { named "film" "Film" .file with path := "/Film" },
          { named "song" "Song" .file with path := "/Again/Song" }], after) := by
  refine ⟨follow_shelfContents, ?_⟩
  obtain ⟨flattened, ⟨least, lists⟩, _⟩ := listRecursive_preorder shelfBrowser
    ⟨none, none, fun _ => false⟩ ⟨none, none, fun _ => false⟩ "root" (fun _ => True) shelfAnswers
    shelfContents (fun _ _ => rfl) (fun _ _ => Action.gives_ofOutcome _) follow_shelfContents
  refine ⟨least, fun budget enough => ?_⟩
  have recursive := lists budget enough ((), []) trivial
  refine ⟨_, Prod.ext recursive rfl, ?_⟩
  rw [flattened, recursive]
  rfl

end SharedFolder

end DriveBrowser

end StoreGate
