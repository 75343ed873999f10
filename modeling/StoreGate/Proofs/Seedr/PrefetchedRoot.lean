import StoreGate.Proofs.Drive.FolderVisits
import StoreGate.Proofs.Seedr.ServiceRequests
/-!
# The folder that is fetched before the walk

An item's own folder is fetched for its name and not again by the walk that begins there.  But for
that nothing differs from a walk that fetches every folder itself: neither the files, the failure
or the requests, which are one for each folder that is looked into, in the order of the walk, also
where a folder holds itself.
-/

namespace StoreGate

/-- A walk begins with the first page of its root, and what it does then depends on that page
alone. -/
theorem Flatten.exists_run_eq {World : Type} (source : FolderSource World) (store : Store)
    (rootId : String) (caller : Caller World) (budget : Nat) :
    ∃ next : FolderPage → Action World Flattened,
      run source store rootId caller (budget + 1) = fetch source caller rootId none >>= next := by
  rw [run, walk, Action.overPages, bind_assoc, Tally.fromZero_outside_bind]
  exact ⟨_, rfl⟩

namespace Seedr

variable {World α : Type}

/-- Performs a walk with no folder that was fetched before. -/
def Drive.withoutPrefetched (walk : Action (Prefetched World) α) : Action World α :=
  ExceptT.mk fun world =>
    let (result, state) := walk.runOn ⟨none, world⟩
    (result, state.world)

theorem Drive.runOn_withoutPrefetched (walk : Action (Prefetched World) α) (world : World) :
    (Drive.withoutPrefetched walk).runOn world =
      ((walk.runOn ⟨none, world⟩).1, (walk.runOn ⟨none, world⟩).2.world) :=
  rfl

/-- The files of an item, from a walk that fetches every folder itself. -/
def Drive.flattened (drive : Drive World) (caller : Caller World) (id : String) :
    Action World Flattened := do
  let key ← drive.keyOf caller
  withoutPrefetched (Flatten.run (drive.folders key) .seedr id (walker caller) drive.pageBudget)

/-- The files of an item and their total size. -/
def filesOf (item : Item) : Flattened := ⟨item.files, item.size⟩

section Optimisation

variable {drive : Drive World} {caller : Caller World} {id : String} {folderId : Nat}
  (active : ∀ world, caller.isCancelled world = false) (isNumber : readId? id = some folderId)
  (enough : 0 < drive.pageBudget)

include active isNumber enough

/-- A walk that has to fetch its root goes on like one whose root was fetched before. -/
theorem runOn_run_prefetched (key : String) (world : World) :
    (Flatten.run (drive.folders key) .seedr id (Drive.walker caller) drive.pageBudget).runOn
        ⟨none, world⟩ =
      match (drive.api.folder key folderId).runOn world with
      | (.ok contents, after) =>
        (Flatten.run (drive.folders key) .seedr id (Drive.walker caller) drive.pageBudget).runOn
          ⟨some (folderId, contents), after⟩
      | (.error halt, after) => (.error halt, ⟨none, after⟩) := by
  obtain ⟨budget, isSucc⟩ := Nat.exists_eq_succ_of_ne_zero (Nat.ne_of_gt enough)
  obtain ⟨next, begins⟩ := Flatten.exists_run_eq (drive.folders key) .seedr id
    (Drive.walker caller) budget
  have checked : ∀ state, (Flatten.fetch (drive.folders key) (Drive.walker caller) id none).runOn
      state = (drive.folders key id none).runOn state := by
    intro state
    rw [Flatten.fetch, Action.runOn_bind, Action.runOn_check, Drive.walker, active]
    rfl
  rw [isSucc, Nat.succ_eq_add_one, begins, Action.runOn_bind, checked,
    Drive.runOn_folders drive key isNumber]
  cases (drive.api.folder key folderId).runOn world with
  | mk result after =>
      cases result with
      | ok contents =>
          dsimp only
          rw [Action.runOn_bind, checked,
            Drive.runOn_folders_prefetched drive key contents isNumber]
          rfl
      | error halt => rfl

theorem item_eq_flattened (world : World) :
    ((drive.item caller id).runOn world).1.map filesOf =
        ((drive.flattened caller id).runOn world).1 ∧
      ((drive.item caller id).runOn world).2 = ((drive.flattened caller id).runOn world).2 := by
  rw [Drive.item, isNumber]
  dsimp only
  rw [Drive.flattened, Action.runOn_bind, Action.runOn_bind, Drive.keyOf, Action.runOn_ofOutcome]
  cases caller.apiKeyOr drive.apiKey with
  | error failure => exact ⟨rfl, rfl⟩
  | ok key =>
      -- Both have the root from the service now, and go on with nothing left of what was fetched.
      dsimp only [Action.resultOf, Except.mapError]
      rw [Action.runOn_bind, Drive.runOn_withoutPrefetched,
        runOn_run_prefetched active isNumber enough key world]
      cases (drive.api.folder key folderId).runOn world with
      | mk result after =>
          cases result with
          | error halt => exact ⟨rfl, rfl⟩
          | ok contents =>
              dsimp only
              rw [Action.runOn_bind, Drive.runOn_withPrefetched]
              cases (Flatten.run (drive.folders key) .seedr id (Drive.walker caller)
                  drive.pageBudget).runOn ⟨some (folderId, contents), after⟩ with
              | mk flat state => cases flat <;> exact ⟨rfl, rfl⟩

end Optimisation

section Visits

/-- What a service shows of the folder with an identifier, if it answers by the number. -/
def pageFor (answers : Nat → Outcome Contents) (id : String) : Outcome FolderPage :=
  match readId? id with
  | none => .error (.corruptListing ("non-numeric seedr folder id: " ++ id))
  | some number => (answers number).map Drive.pageOf

theorem pageFor_of_number {answers : Nat → Outcome Contents} {id : String} {number : Nat}
    (isNumber : readId? id = some number) :
    pageFor answers id = (answers number).map Drive.pageOf := by
  rw [pageFor, isNumber]

theorem pageFor_eq_ok {answers : Nat → Outcome Contents} {id : String} {page : FolderPage}
    (shown : pageFor answers id = .ok page) :
    ∃ number contents, answers number = .ok contents ∧ page = Drive.pageOf contents := by
  unfold pageFor at shown
  split at shown
  · cases shown
  · rename_i number _
    cases given : answers number with
    | error failure =>
        rw [given] at shown
        cases shown
    | ok contents =>
        rw [given] at shown
        exact ⟨number, contents, given, (Except.ok.inj shown).symm⟩

/-- The folders that a depth-first walk looks into, its root first. -/
def visits (answers : Nat → Outcome Contents) (id : String) : List String :=
  Flatten.visits (Flatten.onePage ∘ pageFor answers) id

/-- Whether a service lists only folders whose numbers have at most 64 bits. -/
def IsNumbered (answers : Nat → Outcome Contents) : Prop :=
  ∀ number contents, answers number = .ok contents →
    ∀ folder ∈ contents.folders, folder.id < bitLimit 64

/-- The world is steady, nothing is left of what was fetched before, and the service has been asked
for the numbered folders among some since the start. -/
structure HasVisited (steady : World → Prop) (key : String) (start : List Request)
    (visited : List String) (now : Prefetched (Recorded World Request)) : Prop where
  spent : now.folder = none
  isSteady : steady now.world.1
  asked : now.world.2 = start ++ (visited.filterMap readId?).map (.folder key)

variable {drive : Drive World} {caller : Caller (Recorded World Request)} {key : String}
  {steady : World → Prop} {answers : Nat → Outcome Contents}
  (active : ∀ now, caller.isCancelled now = false)
  (answered : ∀ number,
    (drive.api.folder key number).Gives steady (Action.resultOf (answers number)))

include active answered

/-- One visit of a folder costs one request, if the folder has a number. -/
theorem leads_folders (start : List Request) (before : List String) (id : String)
    (token : Option String) :
    (Flatten.fetch (drive.recorded.folders key) (Drive.walker caller) id token).Leads
      (HasVisited steady key start before) (HasVisited steady key start (before ++ [id]))
      (Action.resultOf (pageFor answers id)) := by
  refine Action.Leads.check_bind (fun state _ => active state.world) ?_
  rintro ⟨_, world, requests⟩ ⟨rfl, isSteady, rfl⟩
  cases isNumber : readId? id with
  | none =>
      have unread : (drive.recorded.folders key id token).runOn
          ⟨none, world, start ++ (before.filterMap readId?).map (.folder key)⟩ =
            (Action.resultOf (pageFor answers id),
              ⟨none, world, start ++ (before.filterMap readId?).map (.folder key)⟩) := by
        rw [Drive.folders, pageFor, isNumber]
        rfl
      rw [unread]
      refine ⟨rfl, rfl, isSteady, ?_⟩
      rw [List.filterMap_append, List.filterMap_cons_none isNumber, List.filterMap_nil,
        List.append_nil]
  | some number =>
      obtain ⟨given, stays⟩ := answered number world isSteady
      -- A folder has one page, which is given for every token.
      change ((drive.recorded.folders key id none).runOn _).1 = _ ∧
        HasVisited steady key start _ ((drive.recorded.folders key id none).runOn _).2
      rw [Drive.runOn_folders drive.recorded key isNumber]
      refine ⟨?_, rfl, stays, ?_⟩
      · have shown : (((drive.recorded.api.folder key number).runOn
            (world, start ++ (before.filterMap readId?).map (.folder key))).1.map Drive.pageOf) =
              (Action.resultOf (answers number)).map Drive.pageOf := congrArg _ given
        rw [pageFor_of_number isNumber]
        refine shown.trans ?_
        cases answers number <;> rfl
      · rw [List.filterMap_append, List.filterMap_cons_some isNumber, List.filterMap_nil,
          List.map_append, ← List.append_assoc]
        rfl

/-- The requests of a walk that fetches every folder itself are those for the folders that it looks
into. -/
theorem requests_of_flattened (enough : 0 < drive.pageBudget)
    (credential : caller.apiKeyOr drive.apiKey = .ok key) {world : World}
    (isSteady : steady world) (start : List Request) (id : String) :
    ((drive.recorded.flattened caller id).runOn (world, start)).2.2 =
      start ++ ((visits answers id).filterMap readId?).map (.folder key) := by
  have single : ∀ folderId page, pageFor answers folderId = .ok page → page.next? = none := by
    intro folderId page shown
    obtain ⟨_, _, _, rfl⟩ := pageFor_eq_ok shown
    rfl
  have fetched : ∀ folderId token (asked : List Flatten.PageRequest),
      (Flatten.fetch (drive.recorded.folders key) (Drive.walker caller) folderId token).Leads
        (HasVisited steady key start (asked.map Prod.fst))
        (HasVisited steady key start ((asked ++ [(folderId, token)]).map Prod.fst))
        (Action.resultOf (pageFor answers folderId)) := by
    intro folderId token asked
    rw [List.map_append]
    exact leads_folders active answered start (asked.map Prod.fst) folderId token
  have begins : HasVisited steady key start [] ⟨none, world, start⟩ :=
    ⟨rfl, isSteady, (List.append_nil start).symm⟩
  obtain ⟨_, visited⟩ := Flatten.run_of_moves
    (fun now asked => HasVisited steady key start (asked.map Prod.fst) now) fetched .seedr id
    drive.pageBudget begins
  rw [Flatten.asked_of_onePage .seedr id enough single] at visited
  have known : caller.apiKeyOr drive.recorded.apiKey = .ok key := credential
  rw [Drive.flattened, Action.runOn_bind, Drive.keyOf, known]
  exact visited.asked

end Visits

theorem readId?_of_mem_visits {answers : Nat → Outcome Contents} (isNumbered : IsNumbered answers)
    {rootId : String} {number : Nat} (isNumber : readId? rootId = some number) {id : String}
    (member : id ∈ visits answers rootId) : ∃ number, readId? id = some number := by
  rcases Flatten.exists_folder_of_mem_visits member with rfl | ⟨parentId, name, isListed⟩
  · exact ⟨number, isNumber⟩
  · cases shown : pageFor answers parentId with
    | error failure =>
        rw [Function.comp_apply, shown] at isListed
        cases isListed
    | ok page =>
        obtain ⟨parent, contents, given, rfl⟩ := pageFor_eq_ok shown
        rw [Function.comp_apply, shown] at isListed
        have onPage : .folder id name ∈ (Drive.pageOf contents).entries := by
          simpa [Flatten.onePage, Contents.entries] using isListed
        rcases List.mem_append.mp onPage with isFile | isFolder
        · obtain ⟨_, _, contradictory⟩ := List.mem_map.mp isFile
          cases contradictory
        · obtain ⟨folder, isInside, same⟩ := List.mem_map.mp isFolder
          cases same
          refine ⟨folder.id, ?_⟩
          rw [readId?_toString, if_pos (isNumbered parent contents given folder isInside)]

/-- That the folder of an item is fetched before the walk changes nothing: the files with their
total size, or the failure, and all that is left behind are those of a walk that fetches every
folder itself.  If what the service answers depends on the numbers of folders alone, it is asked
exactly once for each folder that a depth-first walk looks into, in this order and beginning with
the item's own, however the folders hold each other. -/
theorem item_fetches_visits (drive : Drive World) (caller : Caller (Recorded World Request))
    (id : String) (folderId : Nat) (active : ∀ now, caller.isCancelled now = false)
    (isNumber : readId? id = some folderId) (enough : 0 < drive.pageBudget) :
    (∀ start,
      ((drive.recorded.item caller id).runOn start).1.map filesOf =
        ((drive.recorded.flattened caller id).runOn start).1 ∧
      ((drive.recorded.item caller id).runOn start).2 =
        ((drive.recorded.flattened caller id).runOn start).2) ∧
    ∀ (key : String) (steady : World → Prop) (answers : Nat → Outcome Contents),
      caller.apiKeyOr drive.apiKey = .ok key →
      (∀ number, (drive.api.folder key number).Gives steady
        (Action.resultOf (answers number))) →
      IsNumbered answers → ∀ world, steady world →
      ∃ numbers : List Nat, (visits answers id).map readId? = numbers.map some ∧
        ((drive.recorded.item caller id).runOn (world, [])).2.2 = numbers.map (.folder key) := by
  have same := fun start => item_eq_flattened active isNumber
    (show 0 < drive.recorded.pageBudget from enough) start
  refine ⟨same, fun key steady answers credential answered isNumbered world isSteady => ?_⟩
  refine ⟨(visits answers id).filterMap readId?, ?_, ?_⟩
  · rw [List.map_filterMap_some_eq_filter_map_isSome, List.filter_eq_self.mpr]
    refine List.forall_mem_map.mpr fun visited member => ?_
    exact Option.isSome_iff_exists.mpr (readId?_of_mem_visits isNumbered isNumber member)
  · rw [(same _).2, requests_of_flattened active answered enough credential isSteady [] id,
      List.nil_append]

section Shelf

/-- Folders of which one is listed twice, and one that holds itself. -/
def shelf (number : Nat) : Outcome Contents :=
  if number = 42 then
    .ok ⟨some 42, "Films", "", [⟨7, "Disc", 0, ""⟩, ⟨7, "Copy", 0, ""⟩], [⟨1, "Film", 700⟩]⟩
  else if number = 7 then .ok ⟨some 7, "Disc", "", [], [⟨2, "Song", 5⟩]⟩
  else if number = 9 then .ok ⟨some 9, "Loop", "", [⟨9, "Again", 0, ""⟩], []⟩
  else .error (.notFound ("folder " ++ toString number))

def shelfDrive : Drive Unit := Drive.ofTable shelf

theorem isNumbered_shelf : IsNumbered shelf := by
  intro number contents given folder member
  unfold shelf at given
  split at given
  · cases given
    simp only [List.mem_cons, List.not_mem_nil, or_false] at member
    rcases member with rfl | rfl <;> decide
  · split at given
    · cases given
      cases member
    · split at given
      · cases given
        rw [List.mem_singleton] at member
        subst member
        decide
      · cases given

/-- The folder that is listed twice is asked for twice.  The one that holds itself is asked for 33
times in all, one of them before the walk, until it lies too deep. -/
theorem item_fetches_visits_shelf :
    (readId? "042" = some 42 ∧ readId? "+9" = some 9 ∧ IsNumbered shelf) ∧
    ((shelfDrive.recorded.item guest "042").runOn ((), [])).2.2 =
      [42, 7, 7].map (.folder "key") ∧
    ((shelfDrive.recorded.item guest "+9").runOn ((), [])).2.2 =
      (List.replicate 33 9).map (.folder "key") := by
  have asked : ∀ id number, readId? id = some number → ∀ numbers : List Nat,
      (visits shelf id).map readId? = numbers.map some →
      ((shelfDrive.recorded.item guest id).runOn ((), [])).2.2 =
        numbers.map (.folder "key") := by
    intro id number isNumber numbers expected
    obtain ⟨_, asks⟩ := item_fetches_visits shelfDrive guest id number (fun _ => rfl) isNumber
      (by decide)
    obtain ⟨found, visited, requests⟩ := asks "key" (fun _ => True) shelf rfl
      (fun _ => Action.gives_ofOutcome _) isNumbered_shelf () trivial
    obtain rfl : found = numbers :=
      List.map_injective_iff.mpr (Option.some_injective Nat) (visited.symm.trans expected)
    exact requests
  exact ⟨⟨by decide, by decide, isNumbered_shelf⟩,
    asked "042" 42 (by decide) _ (by decide +kernel),
    asked "+9" 9 (by decide) _ (by decide +kernel)⟩

end Shelf

end Seedr

end StoreGate
