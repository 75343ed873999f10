import Mathlib.Logic.Relation
import StoreGate.Proofs.PikPak.StepEffects
/-!
# Calls beside each other

Any number of calls on one account stand between two of their steps, and one of them moves on at a
time.  Every order of their moves is a run.  A listing that is kept, held or served at some point of
a run is one that a call fetched earlier in it.
-/

namespace StoreGate.PikPak

variable {World : Type}

/-- A call that runs beside others. -/
structure Call (World : Type) where
  caller : Caller World
  /-- The moment at which it began. -/
  begun : Nat
  stage : Stage

/-- All calls of one account with what they share.  The listing that was kept last and the listings
that were fetched are recorded to tell where a page comes from; no step depends on them. -/
structure Scene (World : Type) where
  session : Session World
  calls : List (Call World)
  /-- The number of moves so far. -/
  moment : Nat
  kept : Option Fetch
  fetches : List Fetch

/-- The listing that is kept last when a call moves on from a stage. -/
def keptBehind : Stage → Option Fetch → Option Fetch
  | .keeping _ fetch, _ => some fetch
  | _, kept => kept

/-- The listings fetched when a call moves on from one stage to the next. -/
def fetchesBehind : (stage next : Stage) → List Fetch → List Fetch
  | .fetching _, .keeping _ fetch, fetches => fetch :: fetches
  | _, _, fetches => fetches

namespace Scene

/-- Nobody has called yet. -/
def start (session : Session World) : Scene World := ⟨session, [], 0, none, []⟩

def now (drive : Drive World) (scene : Scene World) : Instant :=
  drive.clock.now scene.session.world

def entry (drive : Drive World) (key : String) (scene : Scene World) :
    Option (Cache.Entry (List ItemSummary)) :=
  keptEntry drive key scene.session

def begin (scene : Scene World) (caller : Caller World) (request : Request) : Scene World :=
  { scene with
    calls := scene.calls ++ [⟨caller, scene.moment, request.stage⟩], moment := scene.moment + 1 }

/-- One call makes a step. -/
def proceed (drive : Drive World) (key : String) (scene : Scene World) (index : Nat)
    (call : Call World) : Scene World :=
  let next := advance drive key call.caller scene.moment scene.kept call.stage scene.session
  { session := next.2
    calls := scene.calls.set index { call with stage := next.1 }
    moment := scene.moment + 1
    kept := keptBehind call.stage scene.kept
    fetches := fetchesBehind call.stage next.1 scene.fetches }

end Scene

/-- One move.  The clock never goes back. -/
inductive Step (drive : Drive World) (key : String) : Scene World → Scene World → Prop
  | begins {scene : Scene World} (caller : Caller World) (request : Request)
      (account : caller.apiKeyOr drive.apiKey = .ok key) :
      Step drive key scene (scene.begin caller request)
  | proceeds {scene : Scene World} (index : Nat) (call : Call World)
      (found : scene.calls[index]? = some call) (going : call.stage.answer? = none)
      (forward : scene.now drive ≤ (scene.proceed drive key index call).now drive) :
      Step drive key scene (scene.proceed drive key index call)
  /-- The drive, the clock or the listings of other accounts change. -/
  | passes {scene : Scene World} (session : Session World)
      (same : keptEntry drive key session = scene.entry drive key)
      (forward : scene.now drive ≤ drive.clock.now session.world) :
      Step drive key scene { scene with session, moment := scene.moment + 1 }

abbrev Reaches (drive : Drive World) (key : String) : Scene World → Scene World → Prop :=
  Relation.ReflTransGen (Step drive key)

/-- What runs begin with: nobody has called, and no listing is kept. -/
def Reachable (drive : Drive World) (key : String) (scene : Scene World) : Prop :=
  ∃ session, keptEntry drive key session = none ∧ Reaches drive key (Scene.start session) scene

namespace Stage

/-- Whether a call that holds a listing or was served from one has got it from the fetches. -/
def IsOf (fetches : List Fetch) : Stage → Prop
  | .keeping _ fetch => fetch ∈ fetches
  | .listed page source =>
    ∃ fetch ∈ fetches, source = some fetch ∧ ∃ range : PageRange, page = range.slice fetch.items
  | _ => True

/-- Whether a call holds a listing of some kind, which it is about to keep. -/
def Carries (stale : Fetch → Prop) : Stage → Prop
  | .keeping _ fetch => stale fetch
  | _ => False

/-- Whether a call was served from a listing of some kind. -/
def WasServed (stale : Fetch → Prop) : Stage → Prop
  | .listed _ (some fetch) => stale fetch
  | _ => False

variable {stage : Stage} {stale : Fetch → Prop} {fetches : List Fetch}

theorem isOf_of_isPlain (plain : stage.IsPlain) : stage.IsOf fetches := by
  cases stage <;> trivial

theorem not_carries_of_isPlain (plain : stage.IsPlain) : ¬ stage.Carries stale := by
  cases stage <;> first | exact id | cases plain

theorem not_wasServed_of_isPlain (plain : stage.IsPlain) : ¬ stage.WasServed stale := by
  cases stage <;> first | exact id | cases plain

theorem IsOf.mono {more : List Fetch} (isOf : stage.IsOf fetches) (further : fetches ⊆ more) :
    stage.IsOf more := by
  cases stage with
  | keeping range fetch => exact further isOf
  | listed page source =>
      obtain ⟨fetch, member, shape⟩ := isOf
      exact ⟨fetch, further member, shape⟩
  | _ => trivial

theorem IsBefore.mono {bound more : Nat} (isBefore : stage.IsBefore bound)
    (further : bound ≤ more) : stage.IsBefore more :=
  fun mutation isMutation => Nat.lt_of_lt_of_le (isBefore mutation isMutation) further

end Stage

theorem isPlain_of_request (request : Request) : request.stage.IsPlain := by
  cases request <;> trivial

theorem isBefore_of_request (request : Request) (bound : Nat) : request.stage.IsBefore bound := by
  intro mutation isMutation
  cases request <;> cases isMutation

variable {drive : Drive World} {key : String} {scene next later : Scene World}

theorem reachable_of_reaches (reachable : Reachable drive key scene)
    (run : Reaches drive key scene later) : Reachable drive key later := by
  obtain ⟨session, absent, earlier⟩ := reachable
  exact ⟨session, absent, earlier.trans run⟩

/-- All that a move can do. -/
theorem step_cases (step : Step drive key scene next) :
    (∃ caller request, caller.apiKeyOr drive.apiKey = .ok key ∧ next = scene.begin caller request) ∨
    (∃ index caller begun stage nextStage before after,
      scene.calls[index]? = some ⟨caller, begun, stage⟩ ∧
      next.calls = scene.calls.set index ⟨caller, begun, nextStage⟩ ∧
      next.moment = scene.moment + 1 ∧ next.kept = keptBehind stage scene.kept ∧
      next.fetches = fetchesBehind stage nextStage scene.fetches ∧
      scene.now drive ≤ next.now drive ∧
      (∀ bound, scene.moment < bound → stage.IsBefore bound → nextStage.IsBefore bound) ∧
      scene.entry drive key = before ∧ next.entry drive key = after ∧
      Effect drive (scene.now drive) scene.moment scene.kept stage before nextStage after) ∨
    (next.calls = scene.calls ∧ next.moment = scene.moment + 1 ∧ next.kept = scene.kept ∧
      next.fetches = scene.fetches ∧ next.entry drive key = scene.entry drive key ∧
      scene.now drive ≤ next.now drive) := by
  cases step with
  | begins caller request account => exact Or.inl ⟨caller, request, account, rfl⟩
  | proceeds index call found going forward =>
      obtain ⟨caller, begun, stage⟩ := call
      refine Or.inr (Or.inl ⟨index, caller, begun, stage, _, _, _, found, rfl, rfl, rfl, rfl,
        forward, fun bound now past => isBefore_advance now past, rfl, rfl, ?_⟩)
      exact effect_advance scene.moment scene.kept going
  | passes session same forward => exact Or.inr (Or.inr ⟨rfl, rfl, rfl, rfl, same, forward⟩)

section Consistency

/-- What holds of a call at a moment, with the listings that were fetched before. -/
structure Call.IsConsistent (drive : Drive World) (key : String) (moment : Nat)
    (fetches : List Fetch) (call : Call World) : Prop where
  account : call.caller.apiKeyOr drive.apiKey = .ok key
  begun : call.begun < moment
  mutation : call.stage.IsBefore moment
  listing : call.stage.IsOf fetches

/-- What is kept for an account was fetched and is the listing recorded last. -/
def IsRecorded (kept : Option Fetch) (fetches : List Fetch)
    (entry : Option (Cache.Entry (List ItemSummary))) : Prop :=
  ∀ known, entry = some known →
    ∃ fetch ∈ fetches, kept = some fetch ∧ known.value = fetch.items

/-- What holds of all scenes: nothing lies in the future, and every listing that is kept, held or
served is one that was fetched. -/
structure IsConsistent (drive : Drive World) (key : String) (scene : Scene World) : Prop where
  calls : ∀ call ∈ scene.calls, call.IsConsistent drive key scene.moment scene.fetches
  fetched : ∀ fetch ∈ scene.fetches, fetch.moment < scene.moment
  entry : IsRecorded scene.kept scene.fetches (scene.entry drive key)

theorem Call.IsConsistent.mono {call : Call World} {moment further : Nat}
    {fetches more : List Fetch} (consistent : call.IsConsistent drive key moment fetches)
    (later : moment ≤ further) (superset : fetches ⊆ more) :
    call.IsConsistent drive key further more :=
  ⟨consistent.account, Nat.lt_of_lt_of_le consistent.begun later, consistent.mutation.mono later,
    consistent.listing.mono superset⟩

theorem subset_fetchesBehind (stage next : Stage) (fetches : List Fetch) :
    fetches ⊆ fetchesBehind stage next fetches := by
  unfold fetchesBehind
  split
  · exact List.subset_cons_self _ _
  · exact List.Subset.refl _

theorem moment_le (step : Step drive key scene next) : scene.moment ≤ next.moment := by
  cases step <;> exact Nat.le_succ _

theorem fetches_subset (step : Step drive key scene next) : scene.fetches ⊆ next.fetches := by
  rcases step_cases step with ⟨caller, request, _, rfl⟩ |
    ⟨_, _, _, stage, nextStage, _, _, _, _, _, _, fetches, _⟩ | ⟨_, _, _, fetches, _⟩
  · exact List.Subset.refl _
  · rw [fetches]
    exact subset_fetchesBehind _ _ _
  · rw [fetches]
    exact List.Subset.refl _

theorem keptBehind_of_isPlain {stage : Stage} (plain : stage.IsPlain) (kept : Option Fetch) :
    keptBehind stage kept = kept := by
  cases stage <;> first | rfl | cases plain

theorem fetchesBehind_of_isPlain {stage next : Stage} (plain : next.IsPlain)
    (fetches : List Fetch) : fetchesBehind stage next fetches = fetches := by
  unfold fetchesBehind
  split
  · cases plain
  · rfl

section Effects

variable {now : Instant} {moment : Nat} {kept : Option Fetch} {stage nextStage : Stage}
  {before after : Option (Cache.Entry (List ItemSummary))} {fetches : List Fetch}

theorem Effect.moment_of_mem (effect : Effect drive now moment kept stage before nextStage after) :
    ∀ fetch ∈ fetchesBehind stage nextStage fetches, fetch ∈ fetches ∨ fetch.moment = moment := by
  intro fetch member
  cases effect with
  | fetched range items before =>
      rcases List.mem_cons.mp member with rfl | old
      · exact Or.inr rfl
      · exact Or.inl old
  | served range entry live => exact Or.inl member
  | kept range kept before => exact Or.inl member
  | dropped before plain nextPlain =>
      rw [fetchesBehind_of_isPlain nextPlain] at member
      exact Or.inl member
  | aside before plain nextPlain =>
      rw [fetchesBehind_of_isPlain nextPlain] at member
      exact Or.inl member

theorem Effect.isOf (effect : Effect drive now moment kept stage before nextStage after)
    (own : stage.IsOf fetches) (recorded : IsRecorded kept fetches before) :
    nextStage.IsOf (fetchesBehind stage nextStage fetches) := by
  cases effect with
  | served range entry live =>
      obtain ⟨fetch, member, isKept, same⟩ := recorded entry rfl
      exact ⟨fetch, member, isKept, range, by rw [same]⟩
  | fetched range items before => exact List.mem_cons_self
  | kept range fetch before => exact ⟨fetch, own, rfl, range, rfl⟩
  | dropped before plain nextPlain => exact Stage.isOf_of_isPlain nextPlain
  | aside before plain nextPlain => exact Stage.isOf_of_isPlain nextPlain

theorem Effect.isRecorded (effect : Effect drive now moment kept stage before nextStage after)
    (own : stage.IsOf fetches) (recorded : IsRecorded kept fetches before) :
    IsRecorded (keptBehind stage kept) (fetchesBehind stage nextStage fetches) after := by
  intro known isKnown
  cases effect with
  | served range entry live => exact recorded known isKnown
  | fetched range items before =>
      obtain ⟨fetch, member, isKept, same⟩ := recorded known isKnown
      exact ⟨fetch, List.mem_cons_of_mem _ member, isKept, same⟩
  | kept range fetch before =>
      cases isKnown
      exact ⟨fetch, own, rfl, rfl⟩
  | dropped before plain nextPlain => cases isKnown
  | aside before plain nextPlain =>
      rw [keptBehind_of_isPlain plain, fetchesBehind_of_isPlain nextPlain]
      exact recorded known isKnown

end Effects

theorem isConsistent_start {session : Session World} (absent : keptEntry drive key session = none) :
    IsConsistent drive key (Scene.start session) := by
  refine ⟨fun call member => ?_, fun fetch member => ?_, fun entry found => ?_⟩
  · cases member
  · cases member
  · have contradictory : none = some entry := absent.symm.trans found
    cases contradictory

theorem isConsistent_step (consistent : IsConsistent drive key scene)
    (step : Step drive key scene next) : IsConsistent drive key next := by
  have further := fetches_subset step
  rcases step_cases step with ⟨caller, request, account, rfl⟩ |
    ⟨index, caller, begun, stage, nextStage, before, after, found, calls, moment, kept, fetches,
      forward, isBefore, rfl, rfl, effect⟩ |
    ⟨calls, moment, kept, fetches, same, forward⟩
  · refine ⟨fun call member => ?_, fun fetch member => ?_, consistent.entry⟩
    · rcases List.mem_append.mp member with old | new
      · exact (consistent.calls call old).mono (Nat.le_succ _) further
      · rw [List.mem_singleton] at new
        subst new
        exact ⟨account, Nat.lt_succ_self _, isBefore_of_request request _,
          Stage.isOf_of_isPlain (isPlain_of_request request)⟩
    · exact Nat.lt_succ_of_lt (consistent.fetched fetch member)
  · have own := consistent.calls _ (List.mem_of_getElem? found)
    refine ⟨fun call member => ?_, fun fetch member => ?_, ?_⟩
    · rw [moment]
      rw [calls] at member
      rcases List.mem_or_eq_of_mem_set member with old | rfl
      · exact (consistent.calls call old).mono (Nat.le_succ _) further
      · refine ⟨own.account, Nat.lt_succ_of_lt own.begun,
          isBefore _ (Nat.lt_succ_self _) (own.mutation.mono (Nat.le_succ _)), ?_⟩
        rw [fetches]
        exact effect.isOf own.listing consistent.entry
    · rw [fetches] at member
      rw [moment]
      rcases effect.moment_of_mem fetch member with old | new
      · exact Nat.lt_succ_of_lt (consistent.fetched fetch old)
      · rw [new]
        exact Nat.lt_succ_self _
    · rw [kept, fetches]
      exact effect.isRecorded own.listing consistent.entry
  · refine ⟨fun call member => ?_, fun fetch member => ?_, ?_⟩
    · rw [calls] at member
      rw [moment]
      exact (consistent.calls call member).mono (Nat.le_succ _) further
    · rw [fetches] at member
      rw [moment]
      exact Nat.lt_succ_of_lt (consistent.fetched fetch member)
    · rw [kept, fetches, same]
      exact consistent.entry

theorem isConsistent_of_reachable (reachable : Reachable drive key scene) :
    IsConsistent drive key scene := by
  obtain ⟨session, absent, run⟩ := reachable
  induction run with
  | refl => exact isConsistent_start absent
  | tail run step ih => exact isConsistent_step ih step

end Consistency

end StoreGate.PikPak
