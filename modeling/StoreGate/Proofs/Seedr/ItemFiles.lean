import StoreGate.Seedr.Store
import StoreGate.Proofs.Drive.Surveys
import StoreGate.Proofs.LockedLinkCodec
/-!
# The files of a Seedr item are the listed ones

The files of an item are made from what the service lists below the item's folder, one from each
listed file, although the folder itself is fetched before the walk begins.  Numbers are written into
links and read again, so resolving a link asks the service for the number that was listed.
-/

namespace StoreGate.Seedr

theorem digits?_eq_some {text : List Char} {number : Nat}
    (areDigits : Decimal.digits? text = some number) :
    text ≠ [] ∧ ∀ char ∈ text, char.isDigit = true := by
  unfold Decimal.digits? at areDigits
  split at areDigits
  · cases areDigits
  · rename_i notEmpty
    split at areDigits
    · rename_i allDigits
      exact ⟨fun empty => notEmpty (List.isEmpty_iff.mpr empty), List.all_eq_true.mp allDigits⟩
    · cases areDigits

theorem digits?_toDigits (number : Nat) :
    Decimal.digits? (Nat.toDigits 10 number) = some number := by
  have allDigits : (Nat.toDigits 10 number).all Char.isDigit = true :=
    List.all_eq_true.mpr fun _ member => Nat.isDigit_of_mem_toDigits (by decide) (by decide) member
  have notEmpty : (Nat.toDigits 10 number).isEmpty = false :=
    List.isEmpty_eq_false_iff.mpr Nat.toDigits_ne_nil
  rw [Decimal.digits?, allDigits, notEmpty]
  exact congrArg some Nat.ofDigitChars_ten_toDigits

/-- A number is read as itself, unless it has more than 64 bits. -/
theorem readId?_toString (number : Nat) :
    readId? (toString number) = if number < bitLimit 64 then some number else none := by
  have characters : (toString number).toList = Nat.toDigits 10 number := Nat.toList_repr
  have areDigits := digits?_toDigits number
  unfold readId? Decimal.natural?
  rw [characters]
  split
  · rename_i digits signed
    have isDigit : '+'.isDigit = true :=
      (digits?_eq_some areDigits).2 '+' (signed ▸ List.mem_cons_self)
    exact absurd isDigit (by decide)
  · rw [areDigits]
    rfl

/-- An identifier that is a number can be told apart from the other part of a link. -/
theorem readable_of_readId? {id : String} {number : Nat} (isNumber : readId? id = some number) :
    id ≠ "" ∧ ':' ∉ id.toList := by
  unfold readId? Decimal.natural? at isNumber
  have noMark : ∀ {digits : List Char} {value : Nat},
      Decimal.digits? digits = some value → ':' ∉ digits :=
    fun areDigits member => absurd ((digits?_eq_some areDigits).2 ':' member) (by decide)
  split at isNumber
  · rename_i digits signed
    obtain ⟨value, written, _⟩ := Option.bind_eq_some_iff.mp isNumber
    refine ⟨fun empty => ?_, ?_⟩
    · rw [empty] at signed
      cases signed
    · rw [signed, List.mem_cons, not_or]
      exact ⟨by decide, noMark written⟩
  · obtain ⟨value, written, _⟩ := Option.bind_eq_some_iff.mp isNumber
    refine ⟨fun empty => ?_, noMark written⟩
    rw [empty] at written
    exact (digits?_eq_some written).1 rfl

/-- The folder that was fetched before is taken once, and only under its own number. -/
theorem Prefetched.runOn_take? {World : Type} (folderId : Nat) (state : Prefetched World) :
    (take? folderId).runOn state =
      match state.folder with
      | some (known, contents) =>
        if known = folderId then (.ok (some contents), ⟨none, state.world⟩) else (.ok none, state)
      | none => (.ok none, state) := by
  obtain ⟨_ | ⟨known, contents⟩, world⟩ := state
  · rfl
  · have unfolded : (take? folderId).runOn ⟨some (known, contents), world⟩ =
        (if known = folderId then do
            set (⟨none, world⟩ : Prefetched World)
            return some contents
          else return none : Action (Prefetched World) (Option Contents)).runOn
            ⟨some (known, contents), world⟩ := rfl
    rw [unfolded]
    dsimp only
    split <;> rfl

theorem Prefetched.runOn_outside {World α : Type} (action : Action World α)
    (state : Prefetched World) :
    (Prefetched.outside action).runOn state =
      ((action.runOn state.world).1, { state with world := (action.runOn state.world).2 }) :=
  rfl

namespace Drive

variable {World : Type}

/-- The drive as a catalog, in which folders are known by their numbers. -/
def catalog (drive : Drive World) (key : String) : Catalog World Nat Contents File where
  list := fun folderId _ => drive.api.folder key folderId
  entries := fun contents =>
    contents.files.map .inr ++ contents.folders.map fun folder => .inl (folder.id, folder.name)
  next := fun _ => none
  folderId := toString
  leafId := fun file => toString file.id
  leafName := File.name
  leafSize := File.size

/-- The files that the service lists for an item, each under the names of the folders on the way. -/
def listed (drive : Drive World) (caller : Caller World) (id : String) :
    Action World (List (List String × File)) := do
  match readId? id with
  | none => Action.fail (.invalidInput ("Invalid seedr folder id: " ++ id))
  | some folderId =>
    let key ← drive.keyOf caller
    let contents ← drive.api.folder key folderId
    caller.check "folder listing cancelled"
    (drive.catalog key).visit ((drive.catalog key).survey caller drive.pageBudget folderLevels) []
      contents

/-- The file of an item that a listed file becomes. -/
def fileOf (rootId : String) (found : List String × File) : ItemFile :=
  Flatten.fileAt .seedr rootId (pathOf found.1) (toString found.2.id) found.2.name found.2.size

/-- Asks the service for the file with a number, and gives the link that it offers. -/
def linkOf (drive : Drive World) (caller : Caller World) (fileId : Nat) : Action World String := do
  let key ← drive.keyOf caller
  let download ← drive.api.file key fileId
  if download.url.isEmpty then
    Action.fail (.notFound ("No download link for file " ++ toString fileId))
  return download.url

theorem pageOf_catalog (drive : Drive World) (key : String) (contents : Contents) :
    (drive.catalog key).pageOf contents = pageOf contents := by
  unfold Catalog.pageOf pageOf catalog
  rw [List.map_append, List.map_map, List.map_map]
  rfl

/-- A walk that has used up the folder that was fetched before it. -/
def Spent (state : Prefetched World) (world : World) : Prop :=
  state = ⟨none, world⟩

/-- A walk that has yet to use the folder that was fetched before it. -/
def Fresh (folderId : Nat) (contents : Contents) (state : Prefetched World) (world : World) :
    Prop :=
  state = ⟨some (folderId, contents), world⟩

theorem runOn_folders (drive : Drive World) (key : String) {id : String} {folderId : Nat}
    (isNumber : readId? id = some folderId) (token : Option String) (world : World) :
    (drive.folders key id token).runOn ⟨none, world⟩ =
      (((drive.api.folder key folderId).runOn world).1.map pageOf,
        ⟨none, ((drive.api.folder key folderId).runOn world).2⟩) := by
  rw [folders, isNumber]
  dsimp only
  rw [Action.runOn_bind, Prefetched.runOn_take?]
  dsimp only
  rw [Action.runOn_bind, Prefetched.runOn_outside]
  cases (drive.api.folder key folderId).runOn world with
  | mk result after => cases result <;> rfl

theorem runOn_folders_prefetched (drive : Drive World) (key : String) {id : String}
    {folderId : Nat} (contents : Contents) (isNumber : readId? id = some folderId)
    (token : Option String) (world : World) :
    (drive.folders key id token).runOn ⟨some (folderId, contents), world⟩ =
      (.ok (pageOf contents), ⟨none, world⟩) := by
  rw [folders, isNumber]
  dsimp only
  rw [Action.runOn_bind, Prefetched.runOn_take?]
  dsimp only
  rw [if_pos rfl]
  rfl

theorem folders_tracks (drive : Drive World) (key : String) (folderId : Nat)
    (token : Option String) :
    (drive.folders key (toString folderId) token).Tracks Spent Spent (drive.catalog key).pageOf
      ((drive.catalog key).list folderId token) := by
  rintro _ world rfl page left gave
  by_cases small : folderId < bitLimit 64
  · have isNumber : readId? (toString folderId) = some folderId := by
      rw [readId?_toString, if_pos small]
    rw [runOn_folders drive key isNumber] at gave
    cases asked : (drive.api.folder key folderId).runOn world with
    | mk result right =>
        rw [asked] at gave
        cases result with
        | error halt => cases gave
        | ok contents =>
            cases gave
            exact ⟨contents, right, asked, rfl, (pageOf_catalog drive key contents).symm⟩
  · rw [folders, readId?_toString, if_neg small] at gave
    cases gave

/-- The folder that was fetched before the walk is not fetched again. -/
theorem folders_takes (drive : Drive World) (key : String) {id : String} {folderId : Nat}
    (contents : Contents) (isNumber : readId? id = some folderId) :
    (drive.folders key id none).Tracks (Fresh folderId contents) Spent (fun _ => pageOf contents)
      (pure ()) := by
  rintro _ world rfl page left gave
  rw [runOn_folders_prefetched drive key contents isNumber] at gave
  cases gave
  exact ⟨(), world, rfl, rfl, rfl⟩

/-- The walk takes the folder that was fetched before it for the item's own one, and then walks on
as a survey of that folder does. -/
theorem gather_tracks_visit (drive : Drive World) (caller : Caller World) (key id : String)
    {folderId : Nat} (contents : Contents) (isNumber : readId? id = some folderId) (levels : Nat) :
    (Flatten.gather (drive.folders key) .seedr id (walker caller) drive.pageBudget (levels + 1) id
      "").Tracks (Fresh folderId contents) Spent (List.map (fileOf id))
        (caller.check "folder listing cancelled" >>= fun _ => (drive.catalog key).visit
          ((drive.catalog key).survey caller drive.pageBudget levels) [] contents) := by
  have sees : ∀ state world, Spent state world →
      (walker caller).isCancelled state = caller.isCancelled world := by
    rintro _ world rfl
    rfl
  have followed := Catalog.gather_tracks_survey .seedr id drive.pageBudget sees
    (folders_tracks drive key) levels
  have seesFresh : ∀ state world, Fresh folderId contents state world →
      (walker caller).isCancelled state = caller.isCancelled world := by
    rintro _ world rfl
    rfl
  have fetched : (Flatten.fetch (drive.folders key) (walker caller) id none).Tracks (Fresh folderId contents) Spent (fun _ => pageOf contents)
        (caller.check "folder listing cancelled") := by
    rw [← bind_pure (caller.check _)]
    exact (Action.tracks_check seesFresh).bind fun _ => folders_takes drive key contents isNumber
  rw [Flatten.gather]
  cases budgeted : drive.pageBudget with
  | zero => exact Action.tracks_throw _ _ _
  | succ budget =>
      rw [budgeted] at followed
      refine fetched.bind fun _ => ?_
      have visited := Catalog.visit_tracks followed [] contents
      rw [pageOf_catalog] at visited
      -- There is no further page, so the walk ends with the visit to this one.
      rw [← bind_pure (Catalog.visit _ _ _ _)]
      exact visited.bind fun found => Action.tracks_pure rfl

theorem runOn_withPrefetched {α : Type} (folderId : Nat) (contents : Contents)
    (walk : Action (Prefetched World) α) (world : World) :
    (withPrefetched folderId contents walk).runOn world =
      ((walk.runOn ⟨some (folderId, contents), world⟩).1,
        (walk.runOn ⟨some (folderId, contents), world⟩).2.world) :=
  rfl

/-- An item with its files is made from a survey of its folder. -/
theorem files_of_item {drive : Drive World} {caller : Caller World} {id : String}
    {world after : World} {item : Item}
    (gave : (drive.item caller id).runOn world = (.ok item, after)) :
    ∃ found, (drive.listed caller id).runOn world = (.ok found, after) ∧
      (∃ folderId, readId? id = some folderId) ∧ item.files = found.map (fileOf id) := by
  unfold Drive.item at gave
  unfold listed
  cases isNumber : readId? id with
  | none =>
      rw [isNumber] at gave
      cases gave
  | some folderId =>
      rw [isNumber] at gave
      obtain ⟨key, between, known, gave⟩ := Action.runOn_bind_eq_ok_iff.mp gave
      obtain ⟨contents, fetched, answered, gave⟩ := Action.runOn_bind_eq_ok_iff.mp gave
      obtain ⟨flat, left, flattened, gave⟩ := Action.runOn_bind_eq_ok_iff.mp gave
      cases gave
      cases walked : (Flatten.run (drive.folders key) .seedr id (walker caller)
          drive.pageBudget).runOn ⟨some (folderId, contents), fetched⟩ with
      | mk result state =>
          rw [runOn_withPrefetched, walked] at flattened
          cases flattened
          obtain ⟨found, right, visited, rfl, made⟩ := gather_tracks_visit drive caller key id
            contents isNumber folderLevels rfl (Flatten.gathers_of_run walked)
          exact ⟨found, Action.runOn_bind_eq_ok_iff.mpr ⟨key, between, known,
            Action.runOn_bind_eq_ok_iff.mpr ⟨contents, fetched, answered, visited⟩⟩,
            ⟨folderId, rfl⟩, made⟩

theorem resolve_encode (drive : Drive World) {rootId : String} {fileId : Nat}
    (root : rootId ≠ "" ∧ ':' ∉ rootId.toList) (small : fileId < bitLimit 64)
    (user : Caller World) :
    drive.resolve user (LockedLink.encode .seedr ⟨rootId, toString fileId⟩) =
      drive.linkOf user fileId := by
  have isNumber : readId? (toString fileId) = some fileId := by
    rw [readId?_toString, if_pos small]
  have readable : LockedLink.IsReadable ⟨rootId, toString fileId⟩ :=
    ⟨root.1, root.2, (readable_of_readId? isNumber).1⟩
  rw [resolve, LockedLink.decode_eq_ok_iff.mpr ⟨readable, rfl⟩]
  change (match readId? (toString fileId) with
    | none => _
    | some fileId => _) = _
  rw [isNumber]
  rfl

/-- A link of another store is refused before anything is asked of the service. -/
theorem resolve_foreign (drive : Drive World) {store : Store} (differ : store ≠ .seedr)
    (address : LockedLink) : ∃ reason, ∀ user,
      drive.resolve user (LockedLink.encode store address) = Action.fail (.invalidLink reason) := by
  obtain ⟨reason, refused⟩ := LockedLink.decode_foreign differ address
  refine ⟨reason, fun user => ?_⟩
  rw [resolve, refused]
  rfl

end Drive

end StoreGate.Seedr
