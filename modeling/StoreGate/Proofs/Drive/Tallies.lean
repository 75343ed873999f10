import StoreGate.Flatten
import StoreGate.Proofs.Actions
/-!
# Sizes that are added up on the way

A walk adds up the sizes of the files that it meets, and breaks off at the first sum that does not
fit.  Adding up changes nothing else: up to that point the walk asks for the same pages, finds the
same files and fails in the same way as one that only gathers the files.
-/

namespace StoreGate

namespace Tally

variable {World α β : Type}

theorem runOn_outside (action : Action World α) (tally : Tally World) :
    (outside action).runOn tally =
      ((action.runOn tally.world).1, { tally with world := (action.runOn tally.world).2 }) :=
  rfl

theorem runOn_fromZero (action : Action (Tally World) α) (world : World) :
    (fromZero action).runOn world =
      ((action.runOn ⟨0, world⟩).1, (action.runOn ⟨0, world⟩).2.world) :=
  rfl

/-- What begins with something outside begins with it anyway. -/
theorem fromZero_outside_bind (action : Action World α) (next : α → Action (Tally World) β) :
    fromZero (outside action >>= next) = action >>= fun value => fromZero (next value) := by
  funext world
  have whole := runOn_fromZero (outside action >>= next) world
  have parts := Action.runOn_bind action (fun value => fromZero (next value)) world
  change (fromZero (outside action >>= next)).runOn world = _
  rw [whole, Action.runOn_bind, runOn_outside]
  refine Eq.trans ?_ parts.symm
  cases action.runOn world with
  | mk result left => cases result <;> rfl

/-- A known size is added if the sum fits, and breaks the action off if it does not. -/
theorem runOn_add (size : Int) (tally : Tally World) :
    (add size).runOn tally =
      if 0 < size then
        if tally.total + size < bitLimit 63 then
          (.ok (), { tally with total := tally.total + size })
        else (.error .overflow, tally)
      else (.ok (), tally) := by
  have unfolded : (add size : Action (Tally World) Unit).runOn tally =
      (if 0 < size then
        if tally.total + size < bitLimit 63 then set { tally with total := tally.total + size }
        else throw .overflow
      else pure () : Action (Tally World) Unit).runOn tally := rfl
  rw [unfolded]
  split
  · split <;> rfl
  · rfl

section Keeps

variable {kept : World → Prop}

/-- Whether the world beside a sum is as it should be. -/
def Holds (kept : World → Prop) (tally : Tally World) : Prop := kept tally.world

theorem keeps_outside {action : Action World α} (keeps : action.Keeps kept) :
    (outside action).Keeps (Holds kept) :=
  fun tally holds => keeps tally.world holds

theorem keeps_add (size : Int) : (add size : Action (Tally World) Unit).Keeps (Holds kept) := by
  intro tally holds
  rw [runOn_add]
  split
  · split <;> exact holds
  · exact holds

theorem keeps_fromZero {action : Action (Tally World) α} (keeps : action.Keeps (Holds kept)) :
    (fromZero action).Keeps kept :=
  fun world holds => keeps ⟨0, world⟩ holds

end Keeps

/-- Whether an action that adds up sizes does what another one does on the world alone, unless a sum
overflows. -/
def Follows (action : Action (Tally World) α) (plain : Action World α) : Prop :=
  ∀ tally, (action.runOn tally).1 = .error .overflow ∨
    (action.runOn tally).1 = (plain.runOn tally.world).1 ∧
      (action.runOn tally).2.world = (plain.runOn tally.world).2

section Follows

theorem follows_pure (value : α) : Follows (pure value : Action (Tally World) α) (pure value) :=
  fun _ => .inr ⟨rfl, rfl⟩

theorem follows_throw (halt : Halt) : Follows (throw halt : Action (Tally World) α) (throw halt) :=
  fun _ => .inr ⟨rfl, rfl⟩

theorem follows_outside (action : Action World α) : Follows (outside action) action :=
  fun _ => .inr ⟨rfl, rfl⟩

theorem follows_add (size : Int) : Follows (add size : Action (Tally World) Unit) (pure ()) := by
  intro tally
  rw [runOn_add]
  split
  · split
    · exact .inr ⟨rfl, rfl⟩
    · exact .inl rfl
  · exact .inr ⟨rfl, rfl⟩

theorem Follows.bind {action : Action (Tally World) α} {plain : Action World α}
    {next : α → Action (Tally World) β} {plainNext : α → Action World β}
    (first : Follows action plain) (second : ∀ value, Follows (next value) (plainNext value)) :
    Follows (action >>= next) (plain >>= plainNext) := by
  intro tally
  rw [Action.runOn_bind, Action.runOn_bind]
  obtain overflows | ⟨sameResult, sameWorld⟩ := first tally
  · cases ran : action.runOn tally with
    | mk result between =>
        rw [ran] at overflows
        cases overflows
        exact .inl rfl
  · cases ran : action.runOn tally with
    | mk result between =>
        cases plainly : plain.runOn tally.world with
        | mk plainResult left =>
            rw [ran, plainly] at sameResult sameWorld
            cases sameResult
            cases sameWorld
            cases result with
            | ok value => exact second value between
            | error halt => exact .inr ⟨rfl, rfl⟩

theorem follows_collect {visit : β → Action (Tally World) (List α)}
    {plainVisit : β → Action World (List α)}
    (visited : ∀ member, Follows (visit member) (plainVisit member)) (members : List β) :
    Follows (Action.collect visit members) (Action.collect plainVisit members) := by
  induction members with
  | nil => exact follows_pure []
  | cons first rest ih =>
      exact (visited first).bind fun found => ih.bind fun others => follows_pure (found ++ others)

theorem follows_overPages {Page : Type} {fetch : Option String → Action (Tally World) Page}
    {plainFetch : Option String → Action World Page} {next? : Page → Option String}
    {visit : Page → Action (Tally World) (List α)} {plainVisit : Page → Action World (List α)}
    (fetched : ∀ token, Follows (fetch token) (plainFetch token))
    (visited : ∀ page, Follows (visit page) (plainVisit page)) (budget : Nat)
    (token : Option String) :
    Follows (Action.overPages fetch next? visit budget token)
      (Action.overPages plainFetch next? plainVisit budget token) := by
  induction budget generalizing token with
  | zero => exact follows_throw .unfinished
  | succ budget ih =>
      refine (fetched token).bind fun page => (visited page).bind fun found => ?_
      cases next? page with
      | none => exact follows_pure found
      | some token =>
          exact (ih (some token)).bind fun others => follows_pure (found ++ others)

end Follows

end Tally

namespace Flatten

variable {World : Type}

/-- The files below a folder, with nothing added up. -/
def gather (source : FolderSource World) (store : Store) (rootId : String) (caller : Caller World)
    (budget : Nat) : (levels : Nat) → (folderId path : String) → Action World (List ItemFile)
  | 0, _, _ => Action.fail (tooDeep rootId)
  | levels + 1, folderId, path =>
    Action.overPages (fetch source caller folderId) FolderPage.next?
      (fun page =>
        Action.collect
          (fun entry =>
            match entry with
            | .folder id name =>
              gather source store rootId caller budget levels id (path ++ "/" ++ name)
            | .file id name size => pure [fileAt store rootId path id name size])
          page.entries)
      budget none

/-- A walk gathers files, unless a sum of their sizes overflows. -/
theorem walk_follows_gather (source : FolderSource World) (store : Store) (rootId : String)
    (caller : Caller World) (budget levels : Nat) (folderId path : String) :
    Tally.Follows (walk source store rootId caller budget levels folderId path)
      (gather source store rootId caller budget levels folderId path) := by
  induction levels generalizing folderId path with
  | zero => exact Tally.follows_throw _
  | succ levels ih =>
      refine Tally.follows_overPages (fun token => Tally.follows_outside _)
        (fun page => Tally.follows_collect (fun entry => ?_) _) budget none
      cases entry with
      | folder id name => exact ih id _
      | file id name size =>
          exact (Tally.follows_add size).bind fun _ => Tally.follows_pure _

/-- Flattening is a walk that begins with nothing added up. -/
theorem runOn_run (source : FolderSource World) (store : Store) (rootId : String)
    (caller : Caller World) (budget : Nat) (world : World) :
    (run source store rootId caller budget).runOn world =
      match (walk source store rootId caller budget (folderLevels + 1) rootId "").runOn
        ⟨0, world⟩ with
      | (.ok files, tally) => (.ok ⟨files, tally.total⟩, tally.world)
      | (.error halt, tally) => (.error halt, tally.world) := by
  rw [run, Tally.runOn_fromZero, Action.runOn_bind]
  cases (walk source store rootId caller budget (folderLevels + 1) rootId "").runOn ⟨0, world⟩ with
  | mk result tally => cases result <;> rfl

/-- Flattening gives the files that are gathered, unless a sum of their sizes overflows. -/
theorem run_follows_gather (source : FolderSource World) (store : Store) (rootId : String)
    (caller : Caller World) (budget : Nat) (world : World) :
    ((run source store rootId caller budget).runOn world).1 = .error .overflow ∨
      (gather source store rootId caller budget (folderLevels + 1) rootId "").runOn world =
        (((run source store rootId caller budget).runOn world).1.map Flattened.files,
          ((run source store rootId caller budget).runOn world).2) := by
  rw [runOn_run]
  obtain overflows | ⟨sameResult, sameWorld⟩ :=
    walk_follows_gather source store rootId caller budget (folderLevels + 1) rootId "" ⟨0, world⟩
  · cases walked : (walk source store rootId caller budget (folderLevels + 1) rootId "").runOn
        ⟨0, world⟩ with
    | mk result tally =>
        rw [walked] at overflows
        cases overflows
        exact .inl rfl
  · right
    rw [Prod.ext_iff, ← sameResult, ← sameWorld]
    cases walked : (walk source store rootId caller budget (folderLevels + 1) rootId "").runOn
        ⟨0, world⟩ with
    | mk result tally => cases result <;> exact ⟨rfl, rfl⟩

/-- Flattening that gives something has gathered it. -/
theorem gathers_of_run {source : FolderSource World} {store : Store} {rootId : String}
    {caller : Caller World} {budget : Nat} {world after : World} {flat : Flattened}
    (gave : (run source store rootId caller budget).runOn world = (.ok flat, after)) :
    (gather source store rootId caller budget (folderLevels + 1) rootId "").runOn world =
      (.ok flat.files, after) := by
  have follows := run_follows_gather source store rootId caller budget world
  rw [gave] at follows
  exact follows.resolve_left nofun

variable {kept : World → Prop} {source : FolderSource World}

/-- A walk does nothing but list folders. -/
theorem keeps_walk (listed : ∀ folderId token, (source folderId token).Keeps kept) (store : Store)
    (rootId : String) (caller : Caller World) (budget levels : Nat) (folderId path : String) :
    (walk source store rootId caller budget levels folderId path).Keeps (Tally.Holds kept) := by
  induction levels generalizing folderId path with
  | zero => exact Action.keeps_throw _
  | succ levels ih =>
      refine Action.keeps_overPages (fun token => ?_) (fun page => ?_) budget none
      · exact Tally.keeps_outside ((Action.keeps_check caller _).bind fun _ =>
          listed folderId token)
      · refine Action.keeps_collect fun entry _ => ?_
        cases entry with
        | folder id name => exact ih id _
        | file id name size => exact (Tally.keeps_add size).bind fun _ => Action.keeps_pure _

theorem keeps_run (listed : ∀ folderId token, (source folderId token).Keeps kept) (store : Store)
    (rootId : String) (caller : Caller World) (budget : Nat) :
    (run source store rootId caller budget).Keeps kept := by
  refine Tally.keeps_fromZero ((keeps_walk listed store rootId caller budget _ rootId "").bind ?_)
  exact fun files tally holds => holds

end Flatten

end StoreGate
