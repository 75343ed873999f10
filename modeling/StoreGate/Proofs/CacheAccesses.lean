import Mathlib.Logic.Relation
import StoreGate.Proofs.CacheEntries
/-!
# Accesses to a cache beside each other

Any number of accesses stand between two of their sections, and one section is performed at a time.
A look that has found an expired entry goes on to evict it, but by then another entry may be stored
there.  Storing and purging read the clock first and wait for their section then, so the time that
they know may have passed.  Still every look gives what was stored last and is live, and cleaning
takes away nothing that is live.
-/

namespace StoreGate.Cache

variable {α : Type}

/-- What is asked of a cache. -/
inductive Access (α : Type) where
  | get (key : String)
  | set (key : String) (value : α) (lifetime : Duration)
  | delete (key : String)
  | purge

/-- Where an access stands between two of its sections. -/
inductive Phase (α : Type) where
  | looking (key : String)
  /-- Has found an expired entry. -/
  | evicting (key : String)
  | answered (key : String) (found : Option α)
  /-- About to read the clock for an entry. -/
  | dating (key : String) (value : α) (lifetime : Duration)
  | storing (key : String) (value : α) (lifetime : Duration) (read : Instant)
  | erasing (key : String)
  /-- About to read the clock for a purge. -/
  | timing
  | purging (read : Instant)
  | done

/-- Where an access begins. -/
def Access.phase : Access α → Phase α
  | .get key => .looking key
  | .set key value lifetime => .dating key value lifetime
  | .delete key => .erasing key
  | .purge => .timing

namespace Phase

/-- One section of an access. -/
def perform (now : Instant) (cache : Cache α) : Phase α → Phase α × Cache α
  | .looking key =>
    match cache.look now key with
    | .absent => (.answered key none, cache)
    | .live value => (.answered key (some value), cache)
    | .expired => (.evicting key, cache)
  | .evicting key => (.answered key none, cache.evict now key)
  | .dating key value lifetime => (.storing key value lifetime now, cache)
  | .storing key value lifetime read => (.done, cache.set read key value lifetime)
  | .erasing key => (.done, cache.erase key)
  | .timing => (.purging now, cache)
  | .purging read => (.done, cache.purge read)
  | finished => (finished, cache)

/-- Whether an access is about to take expired entries away. -/
def Cleans : Phase α → Prop
  | .evicting _ => True
  | .purging _ => True
  | _ => False

/-- What a look for a key has come to, whether it has cleaned up behind it or not. -/
def finding? : Phase α → Option (String × Option α)
  | .evicting key => some (key, none)
  | .answered key found => some (key, found)
  | _ => none

/-- Whether the clock that an access has read does not lie ahead of a moment. -/
def IsDatedBy (now : Instant) : Phase α → Prop
  | .purging read => read ≤ now
  | _ => True

theorem IsDatedBy.mono {phase : Phase α} {now later : Instant} (dated : phase.IsDatedBy now)
    (forward : now ≤ later) : phase.IsDatedBy later := by
  cases phase with
  | purging read => exact Nat.le_trans dated forward
  | _ => trivial

end Phase

/-- An access as the cache offers it: what it comes to and what it leaves, all at one moment. -/
def Access.atOnce (now : Instant) (cache : Cache α) : Access α → Phase α × Cache α
  | .get key => (.answered key (cache.get now key).1, (cache.get now key).2)
  | .set key value lifetime => (.done, cache.set now key value lifetime)
  | .delete key => (.done, cache.erase key)
  | .purge => (.done, cache.purge now)

/-- Two sections that nothing disturbs make a whole access. -/
theorem perform_perform (now : Instant) (cache : Cache α) (access : Access α) :
    (access.phase.perform now cache).1.perform now (access.phase.perform now cache).2 =
      access.atOnce now cache := by
  cases access with
  | get key =>
      rw [Access.phase, Phase.perform, Access.atOnce, get]
      cases cache.look now key <;> rfl
  | set key value lifetime => rfl
  | delete key => rfl
  | purge => rfl

/-- What is recorded of a section. Cleaning is not. -/
inductive Event (α : Type) where
  /-- An access, by its place among all accesses, looks for a key. -/
  | looked (access : Nat) (key : String) (moment : Instant)
  | stored (key : String) (value : α) (lifetime : Duration) (read : Instant)
  | erased (key : String)

/-- Whether an event decides what stands under a key. -/
def Event.Decides (key : String) : Event α → Prop
  | .looked _ _ _ => False
  | .stored other _ _ _ => other = key
  | .erased other => other = key

def Phase.event? (index : Nat) (now : Instant) : Phase α → Option (Event α)
  | .looking key => some (.looked index key now)
  | .storing key value lifetime read => some (.stored key value lifetime read)
  | .erasing key => some (.erased key)
  | _ => none

/-- The entry that stands under a key after some events, the newest of which comes first. It stands
there even when it has expired. -/
def standing (key : String) : List (Event α) → Option (Entry α)
  | [] => none
  | .looked _ _ _ :: earlier => standing key earlier
  | .stored other value lifetime read :: earlier =>
    if other = key then some ⟨value, expiry read lifetime⟩ else standing key earlier
  | .erased other :: earlier => if other = key then none else standing key earlier

section Standing

variable {key : String} {event : Event α} {history : List (Event α)} {entry : Entry α}

theorem standing_of_not_decides (aside : ¬ event.Decides key) (history : List (Event α)) :
    standing key (event :: history) = standing key history := by
  cases event with
  | looked access other moment => rfl
  | stored other value lifetime read => exact if_neg aside
  | erased other => exact if_neg aside

theorem standing_append {since : List (Event α)} (aside : ∀ event ∈ since, ¬ event.Decides key)
    (history : List (Event α)) : standing key (since ++ history) = standing key history := by
  induction since with
  | nil => rfl
  | cons event since ih =>
      rw [List.cons_append, standing_of_not_decides (aside event List.mem_cons_self)]
      exact ih fun event member => aside event (List.mem_cons_of_mem _ member)

/-- What stands under a key was stored there, and since then nothing was stored or erased there. -/
theorem standing_eq_some_iff :
    standing key history = some entry ↔
      ∃ since value lifetime read earlier,
        history = since ++ .stored key value lifetime read :: earlier ∧
        (∀ event ∈ since, ¬ event.Decides key) ∧ entry = ⟨value, expiry read lifetime⟩ := by
  constructor
  · intro stands
    induction history with
    | nil => cases stands
    | cons event history ih =>
        by_cases decides : event.Decides key
        · cases event with
          | looked access other moment => cases decides
          | stored other value lifetime read =>
              cases decides
              rw [standing, if_pos rfl] at stands
              exact ⟨[], value, lifetime, read, history, rfl, nofun, (Option.some.inj stands).symm⟩
          | erased other =>
              cases decides
              rw [standing, if_pos rfl] at stands
              cases stands
        · rw [standing_of_not_decides decides] at stands
          obtain ⟨since, value, lifetime, read, earlier, rfl, aside, same⟩ := ih stands
          refine ⟨event :: since, value, lifetime, read, earlier, rfl, ?_, same⟩
          exact List.forall_mem_cons.mpr ⟨decides, aside⟩
  · rintro ⟨since, value, lifetime, read, earlier, rfl, aside, rfl⟩
    rw [standing_append aside, standing, if_pos rfl]

end Standing

/-- All accesses to a cache, with what has happened to it. The events are recorded to tell what was
stored last; no section depends on them. -/
structure Schedule (α : Type) where
  cache : Cache α
  now : Instant
  phases : List (Phase α)
  /-- The newest event comes first. -/
  history : List (Event α)

namespace Schedule

/-- Nobody has accessed the cache yet. -/
def start (now : Instant) : Schedule α := ⟨empty, now, [], []⟩

def begin (schedule : Schedule α) (access : Access α) : Schedule α :=
  { schedule with phases := schedule.phases ++ [access.phase] }

/-- One access performs a section. -/
def proceed (schedule : Schedule α) (index : Nat) (phase : Phase α) : Schedule α :=
  let next := phase.perform schedule.now schedule.cache
  { schedule with
    cache := next.2
    phases := schedule.phases.set index next.1
    history := (phase.event? index schedule.now).toList ++ schedule.history }

end Schedule

/-- One move. The clock never goes back. -/
inductive Step : Schedule α → Schedule α → Prop
  | begins {schedule : Schedule α} (access : Access α) : Step schedule (schedule.begin access)
  | proceeds {schedule : Schedule α} (index : Nat) (phase : Phase α)
      (found : schedule.phases[index]? = some phase) : Step schedule (schedule.proceed index phase)
  | passes {schedule : Schedule α} (later : Instant) (forward : schedule.now ≤ later) :
      Step schedule { schedule with now := later }

/-- Whether accesses to a new cache can come to stand as they do. -/
def Reachable (schedule : Schedule α) : Prop :=
  ∃ now, Relation.ReflTransGen Step (Schedule.start now) schedule

section Consistency

variable {schedule next : Schedule α} {now : Instant} {key : String}

/-- Whether what a look has come to is what stood under its key and was live at the look. -/
def IsExplained (history : List (Event α)) (index : Nat) (key : String) (found : Option α) : Prop :=
  ∃ later moment earlier, history = later ++ .looked index key moment :: earlier ∧
    found = ((standing key earlier).filter fun entry => entry.isLive moment).map Entry.value

theorem IsExplained.mono {history : List (Event α)} {index : Nat} {found : Option α}
    (explained : IsExplained history index key found) (newer : List (Event α)) :
    IsExplained (newer ++ history) index key found := by
  obtain ⟨later, moment, earlier, rfl, same⟩ := explained
  exact ⟨newer ++ later, moment, earlier, (List.append_assoc _ _ _).symm, same⟩

/-- What looks have come to, each with the access that has made it. -/
def AreExplained (history : List (Event α)) (phases : List (Phase α)) : Prop :=
  ∀ index phase, phases[index]? = some phase → ∀ key found, phase.finding? = some (key, found) →
    IsExplained history index key found

/-- What holds of all schedules. What the cache holds may differ from what stands under a key, but
never as long as either of them is live. -/
structure IsConsistent (schedule : Schedule α) : Prop where
  entries : ∀ later, schedule.now ≤ later → ∀ key, schedule.cache.live? later key =
    (standing key schedule.history).filter fun entry => entry.isLive later
  dated : ∀ phase ∈ schedule.phases, phase.IsDatedBy schedule.now
  findings : AreExplained schedule.history schedule.phases

/-- A section changes what is live under a key as its event changes what stands there. -/
theorem live?_perform {phase : Phase α} {cache : Cache α} {history : List (Event α)}
    (entries : ∀ later, now ≤ later → ∀ key, cache.live? later key =
      (standing key history).filter fun entry => entry.isLive later)
    (dated : phase.IsDatedBy now) (index : Nat) {later : Instant} (forward : now ≤ later)
    (key : String) :
    (phase.perform now cache).2.live? later key =
      (standing key ((phase.event? index now).toList ++ history)).filter
        fun entry => entry.isLive later := by
  have before := entries later forward key
  -- Storing and erasing change both sides alike. What cleans up must not change what is live.
  cases phase with
  | looking other =>
      have untouched : ((Phase.looking other).perform now cache).2 = cache := by
        rw [Phase.perform]
        cases cache.look now other <;> rfl
      rw [untouched]
      exact before
  | evicting other => exact (live?_evict cache forward other key).trans before
  | storing other value lifetime read =>
      refine (live?_put cache later other key _).trans ?_
      rw [before, Phase.event?, Option.toList_some, List.singleton_append, standing]
      split <;> rfl
  | erasing other =>
      refine (live?_erase cache later other key).trans ?_
      rw [before, Phase.event?, Option.toList_some, List.singleton_append, standing]
      split <;> rfl
  | purging read => exact (live?_purge cache (Nat.le_trans dated forward) key).trans before
  | answered other found => exact before
  | dating other value lifetime => exact before
  | timing => exact before
  | done => exact before

theorem isDatedBy_perform {phase : Phase α} (cache : Cache α) (dated : phase.IsDatedBy now) :
    (phase.perform now cache).1.IsDatedBy now := by
  cases phase with
  | looking key =>
      rw [Phase.perform]
      cases cache.look now key <;> trivial
  | timing => exact Nat.le_refl now
  | _ => trivial

/-- A look comes to the live entry, and to nothing if there is none. -/
theorem finding?_looking (now : Instant) (cache : Cache α) (key : String) :
    ((Phase.looking key).perform now cache).1.finding? =
      some (key, (cache.live? now key).map Entry.value) := by
  rw [Phase.perform]
  obtain ⟨entry, live, looked⟩ | ⟨none, looked | looked⟩ := look_cases cache now key
  · rw [looked, live]
    rfl
  · rw [looked, none]
    rfl
  · rw [looked, none]
    rfl

/-- A look comes to what is live, and whatever follows it keeps to that. -/
theorem isExplained_perform {phase : Phase α} {cache : Cache α} {history : List (Event α)}
    {index : Nat} {found : Option α}
    (entries : ∀ key, cache.live? now key =
      (standing key history).filter fun entry => entry.isLive now)
    (explained : ∀ key found, phase.finding? = some (key, found) →
      IsExplained history index key found)
    (comes : (phase.perform now cache).1.finding? = some (key, found)) :
    IsExplained ((phase.event? index now).toList ++ history) index key found := by
  -- Only a look comes to something new. An eviction ends with what the look before it came to.
  cases phase with
  | looking other =>
      rw [finding?_looking, entries] at comes
      cases comes
      exact ⟨[], now, history, rfl, rfl⟩
  | evicting other =>
      cases comes
      exact explained key none rfl
  | answered other value => exact explained key found comes
  | storing other value lifetime read => cases comes
  | erasing other => cases comes
  | dating other value lifetime => cases comes
  | timing => cases comes
  | purging read => cases comes
  | done => cases comes

theorem isConsistent_start (now : Instant) : IsConsistent (Schedule.start (α := α) now) := by
  refine ⟨fun later _ key => rfl, nofun, fun index phase found => ?_⟩
  cases found

theorem finding?_phase (access : Access α) : access.phase.finding? = none := by
  cases access <;> rfl

theorem areExplained_begin {history : List (Event α)} {phases : List (Phase α)}
    (explained : AreExplained history phases) (access : Access α) :
    AreExplained history (phases ++ [access.phase]) := by
  intro index phase found key value comes
  rw [List.getElem?_append] at found
  split at found
  · exact explained index phase found key value comes
  · rw [List.mem_singleton.mp (List.mem_of_getElem? found), finding?_phase] at comes
    cases comes

theorem areExplained_proceed {index : Nat} {phase : Phase α} (consistent : IsConsistent schedule)
    (found : schedule.phases[index]? = some phase) :
    AreExplained (schedule.proceed index phase).history (schedule.proceed index phase).phases := by
  intro place other isThere key value comes
  by_cases same : index = place
  · subst same
    rw [Schedule.proceed, List.getElem?_set_self (List.getElem?_eq_some_iff.mp found).1] at isThere
    cases isThere
    exact isExplained_perform (consistent.entries _ (Nat.le_refl _))
      (consistent.findings index phase found) comes
  · rw [Schedule.proceed, List.getElem?_set_ne same] at isThere
    exact (consistent.findings place other isThere key value comes).mono _

theorem isConsistent_step (consistent : IsConsistent schedule) (step : Step schedule next) :
    IsConsistent next := by
  cases step with
  | begins access =>
      refine ⟨consistent.entries, fun phase member => ?_,
        areExplained_begin consistent.findings access⟩
      rcases List.mem_append.mp member with old | new
      · exact consistent.dated phase old
      · rw [List.mem_singleton.mp new]
        cases access <;> trivial
  | proceeds index phase found =>
      have dated := consistent.dated phase (List.mem_of_getElem? found)
      refine ⟨fun later forward key => live?_perform consistent.entries dated index forward key,
        fun other member => ?_, areExplained_proceed consistent found⟩
      rcases List.mem_or_eq_of_mem_set member with old | rfl
      · exact consistent.dated other old
      · exact isDatedBy_perform schedule.cache dated
  | passes later forward =>
      exact ⟨fun further ahead => consistent.entries further (Nat.le_trans forward ahead),
        fun phase member => (consistent.dated phase member).mono forward, consistent.findings⟩

theorem isConsistent_of_reachable (reachable : Reachable schedule) : IsConsistent schedule := by
  obtain ⟨now, run⟩ := reachable
  induction run with
  | refl => exact isConsistent_start now
  | tail run step ih => exact isConsistent_step ih step

/-- Cleaning leaves a live entry under its key. -/
theorem find?_perform_of_cleans {phase : Phase α} {cache : Cache α} {entry : Entry α}
    (cleans : phase.Cleans) (dated : phase.IsDatedBy now) (found : cache.find? key = some entry)
    (live : entry.isLive now = true) : (phase.perform now cache).2.find? key = some entry := by
  have isLive : cache.live? now key = some entry := by
    rw [live?, found, Option.filter_some, if_pos live]
  have stays : (phase.perform now cache).2.live? now key = some entry := by
    cases phase with
    | evicting other => exact (live?_evict cache (Nat.le_refl now) other key).trans isLive
    | purging read => exact (live?_purge cache dated key).trans isLive
    | _ => cases cleans
  exact (Option.filter_eq_some_iff.mp stays).1

end Consistency

/-- A look gives the value that was stored under its key last before it, if nothing was erased there
since and the entry is live at the moment of the look, and otherwise nothing, whatever sections of
other accesses lie between its own.  No section that cleans up takes away a live entry. -/
theorem looks_give_latest {schedule : Schedule α} (reachable : Reachable schedule) :
    (∀ index key found, schedule.phases[index]? = some (.answered key found) →
      ∃ later moment earlier, schedule.history = later ++ .looked index key moment :: earlier ∧
        ∀ value, found = some value ↔ ∃ since lifetime read before,
          earlier = since ++ .stored key value lifetime read :: before ∧
          (∀ event ∈ since, ¬ event.Decides key) ∧
          Entry.isLive ⟨value, expiry read lifetime⟩ moment = true) ∧
    ∀ index phase, schedule.phases[index]? = some phase → phase.Cleans →
      ∀ key entry, schedule.cache.find? key = some entry → entry.isLive schedule.now = true →
        (schedule.proceed index phase).cache.find? key = some entry := by
  have consistent := isConsistent_of_reachable reachable
  constructor
  · intro index key found isThere
    obtain ⟨later, moment, earlier, isHistory, same⟩ :=
      consistent.findings index _ isThere key found rfl
    refine ⟨later, moment, earlier, isHistory, fun value => ?_⟩
    rw [same, Option.map_eq_some_iff]
    constructor
    · rintro ⟨entry, standsLive, isValue⟩
      obtain ⟨stands, live⟩ := Option.filter_eq_some_iff.mp standsLive
      obtain ⟨since, stored, lifetime, read, before, split, aside, rfl⟩ :=
        standing_eq_some_iff.mp stands
      cases isValue
      exact ⟨since, lifetime, read, before, split, aside, live⟩
    · rintro ⟨since, lifetime, read, before, split, aside, live⟩
      refine ⟨⟨value, expiry read lifetime⟩, Option.filter_eq_some_iff.mpr ⟨?_, live⟩, rfl⟩
      exact standing_eq_some_iff.mpr ⟨since, value, lifetime, read, before, split, aside, rfl⟩
  · intro index phase isThere cleans key entry found live
    have dated := consistent.dated phase (List.mem_of_getElem? isThere)
    exact find?_perform_of_cleans cleans dated found live

section Gap

/-- A look has found an expired entry, and another one has taken its place. It never expires. -/
def gapSchedule : Schedule Nat where
  cache := empty.set 5 "key" 2 Duration.longest
  now := 5
  phases := [.done, .evicting "key", .done, .answered "key" (some 2)]
  history := [.looked 3 "key" 5, .stored "key" 2 Duration.longest 5, .looked 1 "key" 5,
    .stored "key" 1 ⟨1⟩ 0]

theorem reachable_gapSchedule : Reachable gapSchedule := by
  refine ⟨0, ?_⟩
  have stored : Relation.ReflTransGen Step (Schedule.start 0) _ :=
    ((Relation.ReflTransGen.single (.begins (.set "key" 1 ⟨1⟩))).tail
      (.proceeds 0 (.dating "key" 1 ⟨1⟩) rfl)).tail (.proceeds 0 (.storing "key" 1 ⟨1⟩ 0) rfl)
  have looked : Relation.ReflTransGen Step (Schedule.start 0) _ :=
    ((stored.tail (.passes 5 (Nat.zero_le 5))).tail (.begins (.get "key"))).tail
      (.proceeds 1 (.looking "key") rfl)
  have replaced : Relation.ReflTransGen Step (Schedule.start 0) _ :=
    ((looked.tail (.begins (.set "key" 2 Duration.longest))).tail
      (.proceeds 2 (.dating "key" 2 Duration.longest) rfl)).tail
      (.proceeds 2 (.storing "key" 2 Duration.longest 5) rfl)
  exact (replaced.tail (.begins (.get "key"))).tail (.proceeds 3 (.looking "key") rfl)

/-- The second look gives the entry that has been stored in the gap, and the first one leaves it
there. -/
theorem looks_give_latest_gap :
    (Reachable gapSchedule ∧ gapSchedule.phases[3]? = some (.answered "key" (some 2)) ∧
      gapSchedule.phases[1]? = some (.evicting "key")) ∧
    (∃ later moment earlier, gapSchedule.history = later ++ .looked 3 "key" moment :: earlier ∧
      ∀ value, some 2 = some value ↔ ∃ since lifetime read before,
        earlier = since ++ .stored "key" value lifetime read :: before ∧
        (∀ event ∈ since, ¬ event.Decides "key") ∧
        Entry.isLive ⟨value, expiry read lifetime⟩ moment = true) ∧
    (gapSchedule.proceed 1 (.evicting "key")).cache.find? "key" = some ⟨2, none⟩ := by
  obtain ⟨looks, cleaning⟩ := looks_give_latest reachable_gapSchedule
  exact ⟨⟨reachable_gapSchedule, rfl, rfl⟩, looks 3 "key" (some 2) rfl,
    cleaning 1 (.evicting "key") rfl trivial "key" ⟨2, none⟩ rfl rfl⟩

end Gap

end StoreGate.Cache
