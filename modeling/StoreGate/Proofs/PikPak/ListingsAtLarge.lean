import StoreGate.Proofs.PikPak.Scenes
/-!
# Listings at large

A list call that begins now is served from an old listing in two ways only: the listing is kept and
has not expired, or another call has fetched it and is about to keep it for others.  As long as
neither is the case no move brings the listing back, and as soon as one of them is, the next call can
be served.
-/

namespace StoreGate.PikPak

variable {World : Type} {drive : Drive World} {key : String} {scene next later : Scene World}
  {stale : Fetch → Prop}

/-- Whether a listing that is kept at some moment from now on is served to others then.  It is
unless listings are kept for no time at all. -/
def Drive.ServesKept (drive : Drive World) (now : Instant) : Prop :=
  ∃ world, now ≤ drive.clock.now world ∧
    Cache.Lasts drive.listing.lifetime (drive.clock.now world)

/-- Whether a list call that begins now may still be served from a listing of some kind that was
fetched by now: the listing is kept and has not expired, or a call holds it and is about to keep
it. -/
def AtLarge (drive : Drive World) (key : String) (stale : Fetch → Prop) (scene : Scene World) :
    Prop :=
  (drive.ServesKept (scene.now drive) ∧ ∃ call ∈ scene.calls, call.stage.Carries stale) ∨
    ∃ entry fetch, scene.entry drive key = some entry ∧ entry.isLive (scene.now drive) = true ∧
      scene.kept = some fetch ∧ stale fetch

/-- Whether a call that began at a moment or later holds a listing of some kind or was served from
one. -/
def HasReachedSince (moment : Nat) (stale : Fetch → Prop) (scene : Scene World) : Prop :=
  ∃ call ∈ scene.calls, moment ≤ call.begun ∧
    (call.stage.Carries stale ∨ call.stage.WasServed stale)

/-- Whether no listing of some kind has been fetched since a moment. -/
def FreshSince (moment : Nat) (stale : Fetch → Prop) (scene : Scene World) : Prop :=
  ∀ fetch ∈ scene.fetches, moment ≤ fetch.moment → ¬ stale fetch

theorem Drive.ServesKept.mono {now later : Instant} (serves : drive.ServesKept later)
    (forward : now ≤ later) : drive.ServesKept now := by
  obtain ⟨world, isLater, lasts⟩ := serves
  exact ⟨world, Nat.le_trans forward isLater, lasts⟩

theorem Scene.servesKept_of_lasts
    (lasts : Cache.Lasts drive.listing.lifetime (scene.now drive)) :
    drive.ServesKept (scene.now drive) :=
  ⟨scene.session.world, Nat.le_refl _, lasts⟩

section Safety

/-- Nothing of the kind is live in an entry. -/
def IsHarmless (now : Instant) (kept : Option Fetch) (stale : Fetch → Prop)
    (entry : Option (Cache.Entry (List ItemSummary))) : Prop :=
  ∀ known fetch, entry = some known → known.isLive now = true → kept = some fetch → ¬ stale fetch

theorem IsHarmless.mono {now nextNow : Instant} {kept : Option Fetch}
    {entry : Option (Cache.Entry (List ItemSummary))} (harmless : IsHarmless now kept stale entry)
    (forward : now ≤ nextNow) : IsHarmless nextNow kept stale entry :=
  fun known fetch isKnown live isKept =>
    harmless known fetch isKnown (Cache.isLive_mono forward live) isKept

section Effects

variable {now nextNow : Instant} {moment : Nat} {kept : Option Fetch} {stage nextStage : Stage}
  {before after : Option (Cache.Entry (List ItemSummary))}

theorem Effect.not_carries (effect : Effect drive now moment kept stage before nextStage after)
    (fetches : List Fetch) (fresh : ∀ fetch ∈ fetchesBehind stage nextStage fetches,
      fetch.moment = moment → ¬ stale fetch) : ¬ nextStage.Carries stale := by
  cases effect with
  | fetched range items before => exact fresh _ List.mem_cons_self rfl
  | served range entry live => exact id
  | kept range fetch before => exact id
  | dropped before plain nextPlain => exact Stage.not_carries_of_isPlain nextPlain
  | aside before plain nextPlain => exact Stage.not_carries_of_isPlain nextPlain

theorem Effect.not_wasServed (effect : Effect drive now moment kept stage before nextStage after)
    (notCarries : ¬ stage.Carries stale) (harmless : IsHarmless now kept stale before) :
    ¬ nextStage.WasServed stale := by
  cases effect with
  | served range entry live =>
      cases kept with
      | none => exact id
      | some fetch => exact harmless entry fetch rfl live rfl
  | fetched range items before => exact id
  | kept range fetch before => exact notCarries
  | dropped before plain nextPlain => exact Stage.not_wasServed_of_isPlain nextPlain
  | aside before plain nextPlain => exact Stage.not_wasServed_of_isPlain nextPlain

theorem Effect.isHarmless (effect : Effect drive now moment kept stage before nextStage after)
    (notCarries : Cache.Lasts drive.listing.lifetime now → ¬ stage.Carries stale)
    (harmless : IsHarmless now kept stale before) :
    IsHarmless now (keptBehind stage kept) stale after := by
  cases effect with
  | served range entry live => exact harmless
  | fetched range items before => exact harmless
  | kept range fetch before =>
      intro known source isKnown live isKept
      cases isKnown
      cases isKept
      exact notCarries (Cache.isLive_expiry_iff.mp live)
  | dropped before plain nextPlain =>
      intro known source isKnown
      cases isKnown
  | aside before plain nextPlain =>
      rw [keptBehind_of_isPlain plain]
      exact harmless

end Effects

/-- No move brings a listing of the kind back, or serves one, unless it fetches one. -/
theorem harmless_step {moment : Nat} (since : moment ≤ scene.moment)
    (step : Step drive key scene next) (fresh : FreshSince moment stale next)
    (notLarge : ¬ AtLarge drive key stale scene) (notReached : ¬ HasReachedSince moment stale scene) :
    ¬ AtLarge drive key stale next ∧ ¬ HasReachedSince moment stale next := by
  -- A listing goes from a call into what is kept and from there to other calls, so each of the three
  -- places is free of the kind behind a move only if the one before it was.
  have noCarrier : drive.ServesKept (scene.now drive) →
      ∀ call ∈ scene.calls, ¬ call.stage.Carries stale :=
    fun serves call member carries => notLarge (Or.inl ⟨serves, call, member, carries⟩)
  have noEntry : IsHarmless (scene.now drive) scene.kept stale (scene.entry drive key) :=
    fun entry fetch found live kept isStale =>
      notLarge (Or.inr ⟨entry, fetch, found, live, kept, isStale⟩)
  have noneReached : ∀ call ∈ scene.calls, moment ≤ call.begun →
      ¬ (call.stage.Carries stale ∨ call.stage.WasServed stale) :=
    fun call member since reached => notReached ⟨call, member, since, reached⟩
  rcases step_cases step with ⟨caller, request, account, rfl⟩ |
    ⟨index, caller, begun, stage, nextStage, before, after, found, calls, nextMoment, kept, fetches,
      forward, isBefore, isEntry, isNext, effect⟩ |
    ⟨calls, nextMoment, kept, fetches, same, forward⟩
  · have plain := isPlain_of_request request
    constructor
    · rintro (⟨serves, call, member, carries⟩ | large)
      · rcases List.mem_append.mp member with old | new
        · exact noCarrier serves call old carries
        · rw [List.mem_singleton.mp new] at carries
          exact Stage.not_carries_of_isPlain plain carries
      · exact notLarge (Or.inr large)
    · rintro ⟨call, member, since, reached⟩
      rcases List.mem_append.mp member with old | new
      · exact noneReached call old since reached
      · rw [List.mem_singleton.mp new] at reached
        exact reached.elim (Stage.not_carries_of_isPlain plain)
          (Stage.not_wasServed_of_isPlain plain)
  · have own : (⟨caller, begun, stage⟩ : Call World) ∈ scene.calls := List.mem_of_getElem? found
    have notCarries : ¬ nextStage.Carries stale := by
      refine effect.not_carries scene.fetches fun fetch isFetch made => ?_
      rw [← fetches] at isFetch
      exact fresh fetch isFetch (made ▸ since)
    have entryHarmless := effect.isHarmless
      (fun lasts => noCarrier (Scene.servesKept_of_lasts lasts) _ own) (isEntry ▸ noEntry)
    constructor
    · rintro (⟨serves, call, member, carries⟩ | ⟨entry, fetch, isKnown, live, isKept, isStale⟩)
      · rw [calls] at member
        rcases List.mem_or_eq_of_mem_set member with old | rfl
        · exact noCarrier (serves.mono forward) call old carries
        · exact notCarries carries
      · rw [isNext] at isKnown
        rw [kept] at isKept
        exact entryHarmless.mono forward entry fetch isKnown live isKept isStale
    · rintro ⟨call, member, since, reached⟩
      rw [calls] at member
      rcases List.mem_or_eq_of_mem_set member with old | rfl
      · exact noneReached call old since reached
      · have unreached := not_or.mp (noneReached _ own since)
        exact reached.elim notCarries (effect.not_wasServed unreached.1 (isEntry ▸ noEntry))
  · constructor
    · rintro (⟨serves, call, member, carries⟩ | ⟨entry, fetch, isKnown, live, isKept, isStale⟩)
      · rw [calls] at member
        exact noCarrier (serves.mono forward) call member carries
      · rw [same] at isKnown
        rw [kept] at isKept
        exact noEntry entry fetch isKnown (Cache.isLive_mono forward live) isKept isStale
    · rintro ⟨call, member, since, reached⟩
      rw [calls] at member
      exact noneReached call member since reached

theorem fetches_subset_of_reaches (run : Reaches drive key scene later) :
    scene.fetches ⊆ later.fetches := by
  induction run with
  | refl => exact List.Subset.refl _
  | tail _ step ih => exact fun fetch member => fetches_subset step (ih member)

theorem moment_le_of_reaches (run : Reaches drive key scene later) :
    scene.moment ≤ later.moment := by
  induction run with
  | refl => exact Nat.le_refl _
  | tail _ step ih => exact Nat.le_trans ih (moment_le step)

theorem harmless_run (run : Reaches drive key scene later)
    (fresh : FreshSince scene.moment stale later) (notLarge : ¬ AtLarge drive key stale scene)
    (notReached : ¬ HasReachedSince scene.moment stale scene) :
    ¬ AtLarge drive key stale later ∧ ¬ HasReachedSince scene.moment stale later := by
  induction run with
  | refl => exact ⟨notLarge, notReached⟩
  | tail earlier step ih =>
      have before := ih fun fetch member => fresh fetch (fetches_subset step member)
      exact harmless_step (moment_le_of_reaches earlier) step fresh before.1 before.2

/-- A run that fetches no listing of the kind brings none to new calls, unless one was at large
before. -/
theorem atLarge_of_hasReached (consistent : IsConsistent drive key scene)
    (run : Reaches drive key scene later) (fresh : FreshSince scene.moment stale later)
    (reached : HasReachedSince scene.moment stale later) : AtLarge drive key stale scene := by
  by_cases large : AtLarge drive key stale scene
  · exact large
  · have notReached : ¬ HasReachedSince scene.moment stale scene := by
      rintro ⟨call, member, since, _⟩
      exact absurd (consistent.calls call member).begun (Nat.not_lt.mpr since)
    exact absurd reached (harmless_run run fresh large notReached).2

end Safety

section Exactness

theorem advance_looking_of_live {session : Session World} {entry : Cache.Entry (List ItemSummary)}
    (found : keptEntry drive key session = some entry)
    (live : entry.isLive (drive.clock.now session.world) = true) (caller : Caller World)
    (moment : Nat) (kept : Option Fetch) (range : PageRange) :
    advance drive key caller moment kept (.looking range) session =
      (.listed (range.slice entry.value) kept, session) := by
  have served := Listing.live?_of_found found live
  rw [advance, onward, Listing.runOn_lookUp, served, Listing.looked_of_live served]
  rfl

/-- A listing that is kept and has not expired is served to the next list call. -/
theorem reaches_served {caller : Caller World} (account : caller.apiKeyOr drive.apiKey = .ok key)
    {entry : Cache.Entry (List ItemSummary)} (found : scene.entry drive key = some entry)
    (live : entry.isLive (scene.now drive) = true) (range : PageRange) :
    ∃ later, Reaches drive key scene later ∧ later.fetches = scene.fetches ∧
      ∃ call ∈ later.calls, scene.moment ≤ call.begun ∧
        call.stage = .listed (range.slice entry.value) scene.kept := by
  have begun : Step drive key scene (scene.begin caller (.list range)) := .begins caller _ account
  have served := advance_looking_of_live found live caller (scene.moment + 1) scene.kept range
  have isCall : (scene.begin caller (.list range)).calls[scene.calls.length]? =
      some ⟨caller, scene.moment, .looking range⟩ := by
    simp [Scene.begin, Request.stage]
  have step : Step drive key (scene.begin caller (.list range))
      ((scene.begin caller (.list range)).proceed drive key scene.calls.length
        ⟨caller, scene.moment, .looking range⟩) := by
    refine .proceeds _ _ isCall rfl (Nat.le_of_eq ?_)
    have same := congrArg (fun reached => drive.clock.now reached.2.world) served
    exact same.symm
  have fetches : ((scene.begin caller (.list range)).proceed drive key scene.calls.length
      ⟨caller, scene.moment, .looking range⟩).fetches = scene.fetches := rfl
  have stage : (advance drive key caller (scene.moment + 1) scene.kept (.looking range)
      scene.session).1 = .listed (range.slice entry.value) scene.kept := congrArg Prod.fst served
  have calls : ((scene.begin caller (.list range)).proceed drive key scene.calls.length
      ⟨caller, scene.moment, .looking range⟩).calls =
      scene.calls ++ [⟨caller, scene.moment, .listed (range.slice entry.value) scene.kept⟩] := by
    rw [← stage]
    simp [Scene.proceed, Scene.begin]
  refine ⟨_, (Relation.ReflTransGen.single begun).tail step, fetches,
    ⟨caller, scene.moment, .listed (range.slice entry.value) scene.kept⟩, ?_, Nat.le_refl _, rfl⟩
  rw [calls]
  exact List.mem_append_right _ List.mem_cons_self

/-- A listing that a call holds can be kept at a moment at which it is served to others. -/
theorem reaches_kept (serves : drive.ServesKept (scene.now drive)) {call : Call World}
    (member : call ∈ scene.calls) {range : PageRange} {fetch : Fetch}
    (holds : call.stage = .keeping range fetch) :
    ∃ later, Reaches drive key scene later ∧ later.fetches = scene.fetches ∧
      later.kept = some fetch ∧ ∃ entry, later.entry drive key = some entry ∧
        entry.isLive (later.now drive) = true ∧ entry.value = fetch.items := by
  obtain ⟨caller, begun, stage⟩ := call
  cases holds
  obtain ⟨world, isLater, lasts⟩ := serves
  obtain ⟨index, found⟩ := List.mem_iff_getElem?.mp member
  have waits : Step drive key scene
      { scene with session := { scene.session with world }, moment := scene.moment + 1 } :=
    .passes _ rfl isLater
  exact ⟨_, (Relation.ReflTransGen.single waits).tail
      (.proceeds index ⟨caller, begun, .keeping range fetch⟩ found rfl (Nat.le_refl _)), rfl, rfl,
    _, Cache.find?_put _ _ _, Cache.isLive_expiry_iff.mpr lasts, rfl⟩

/-- What is at large can be served to a list call that begins next, with nothing fetched. -/
theorem reaches_served_of_atLarge (consistent : IsConsistent drive key scene)
    {caller : Caller World} (account : caller.apiKeyOr drive.apiKey = .ok key)
    (large : AtLarge drive key stale scene) :
    ∃ fetch, stale fetch ∧ ∀ range : PageRange, ∃ later, Reaches drive key scene later ∧
      later.fetches = scene.fetches ∧ ∃ call ∈ later.calls, scene.moment ≤ call.begun ∧
        call.stage = .listed (range.slice fetch.items) (some fetch) := by
  rcases large with ⟨serves, call, member, carries⟩ | ⟨entry, fetch, isKnown, live, isKept, isStale⟩
  · cases holds : call.stage with
    | keeping range fetch =>
        rw [holds] at carries
        refine ⟨fetch, carries, fun wanted => ?_⟩
        obtain ⟨next, keeps, fetches, isKept, entry, found, live, same⟩ :=
          reaches_kept serves member holds
        obtain ⟨later, run, noFetch, list, isMember, since, listed⟩ :=
          reaches_served account found live wanted
        rw [isKept, same] at listed
        exact ⟨later, keeps.trans run, noFetch.trans fetches, list, isMember,
          Nat.le_trans (moment_le_of_reaches keeps) since, listed⟩
    | _ =>
        rw [holds] at carries
        cases carries
  · refine ⟨fetch, isStale, fun wanted => ?_⟩
    obtain ⟨later, run, noFetch, list, isMember, since, listed⟩ :=
      reaches_served account isKnown live wanted
    obtain ⟨source, _, isSource, same⟩ := consistent.entry entry isKnown
    rw [isKept] at isSource
    cases isSource
    rw [isKept, same] at listed
    exact ⟨later, run, noFetch, list, isMember, since, listed⟩

end Exactness

section Dropping

theorem keptEntry_advance_of_drops {stage : Stage} (drops : stage.Drops) (caller : Caller World)
    (moment : Nat) (kept : Option Fetch) (session : Session World) :
    keptEntry drive key (advance drive key caller moment kept stage session).2 = none := by
  cases stage with
  | dropping id trashed => exact Cache.find?_erase _ _
  | announcing magnet task started => exact Cache.find?_erase _ _
  | settling item waited started => exact Cache.find?_erase _ _
  | _ => cases drops

theorem isPlain_advance_of_drops {stage : Stage} (drops : stage.Drops) (caller : Caller World)
    (moment : Nat) (kept : Option Fetch) (session : Session World) :
    (advance drive key caller moment kept stage session).1.IsPlain := by
  cases stage with
  | dropping id trashed => trivial
  | announcing magnet task started => trivial
  | settling item waited started => trivial
  | _ => cases drops

theorem now_proceed_of_drops {index : Nat} {call : Call World} (drops : call.stage.Drops) :
    (scene.proceed drive key index call).now drive = scene.now drive := by
  obtain ⟨caller, begun, stage⟩ := call
  cases stage with
  | dropping id trashed => rfl
  | announcing magnet task started => rfl
  | settling item waited started => rfl
  | _ => cases drops

/-- Right behind a step that drops the kept listing, a listing is at large only with the calls that
hold it. -/
theorem atLarge_proceed_iff {index : Nat} {call : Call World}
    (found : scene.calls[index]? = some call) (drops : call.stage.Drops) :
    AtLarge drive key stale (scene.proceed drive key index call) ↔
      drive.ServesKept (scene.now drive) ∧ ∃ other ∈ scene.calls, other.stage.Carries stale := by
  have absent : (scene.proceed drive key index call).entry drive key = none :=
    keptEntry_advance_of_drops drops _ _ _ _
  have plain : (advance drive key call.caller scene.moment scene.kept call.stage
      scene.session).1.IsPlain := isPlain_advance_of_drops drops _ _ _ _
  rw [AtLarge, now_proceed_of_drops drops]
  constructor
  · rintro (⟨serves, other, member, carries⟩ | ⟨entry, _, isKnown, _⟩)
    · rcases List.mem_or_eq_of_mem_set member with old | rfl
      · exact ⟨serves, other, old, carries⟩
      · exact absurd carries (Stage.not_carries_of_isPlain plain)
    · rw [absent] at isKnown
      cases isKnown
  · rintro ⟨serves, other, member, carries⟩
    obtain ⟨place, isAt⟩ := List.mem_iff_getElem?.mp member
    have elsewhere : index ≠ place := by
      rintro rfl
      rw [found] at isAt
      cases isAt
      exact Stage.not_carries_of_isPlain (Stage.isPlain_of_drops drops) carries
    have kept : (scene.proceed drive key index call).calls[place]? = some other := by
      rw [← isAt]
      exact List.getElem?_set_ne elsewhere
    exact Or.inl ⟨serves, other, List.mem_of_getElem? kept, carries⟩

end Dropping

end StoreGate.PikPak
