import StoreGate.Proofs.ListingPages
import StoreGate.Proofs.PikPak.CallSteps
/-!
# What steps do to the kept listing

A step of a call serves the kept listing, keeps one, drops it, or leaves it alone.  What a call
holds or was served from changes with these steps only.
-/

namespace StoreGate.PikPak

variable {World : Type}

/-- What is kept for an account. -/
def keptEntry (drive : Drive World) (key : String) (session : Session World) :
    Option (Cache.Entry (List ItemSummary)) :=
  session.listings.find? (drive.listing.key (accountKey key))

namespace Stage

/-- Whether a call neither holds a listing nor was served from one. -/
def IsPlain : Stage → Prop
  | .keeping _ _ => False
  | .listed _ _ => False
  | _ => True

/-- Whether a call is about to drop the kept listing. -/
def Drops : Stage → Prop
  | .dropping _ _ => True
  | .announcing _ _ _ => True
  | .settling _ _ _ => True
  | _ => False

theorem isPlain_of_drops {stage : Stage} (drops : stage.Drops) : stage.IsPlain := by
  cases stage <;> trivial

/-- The moment at which a call has asked the service to change the drive. -/
def mutation? : Stage → Option Nat
  | .dropping _ trashed => some trashed
  | .removed _ trashed => some trashed
  | .announcing _ _ started => some started
  | .polling _ _ _ _ started => some started
  | .pausing _ _ _ _ started => some started
  | .settling _ _ started => some started
  | .describing _ _ started => some started
  | .added _ started => started
  | _ => none

def IsBefore (bound : Nat) (stage : Stage) : Prop :=
  ∀ mutation ∈ stage.mutation?, mutation < bound

end Stage

/-- What a step does, from a stage and the entry before it to those behind it. -/
inductive Effect (drive : Drive World) (now : Instant) (moment : Nat) (kept : Option Fetch) :
    Stage → Option (Cache.Entry (List ItemSummary)) → Stage →
      Option (Cache.Entry (List ItemSummary)) → Prop
  | served (range : PageRange) (entry : Cache.Entry (List ItemSummary))
      (live : entry.isLive now = true) :
      Effect drive now moment kept (.looking range) (some entry)
        (.listed (range.slice entry.value) kept) (some entry)
  | fetched (range : PageRange) (items : List ItemSummary)
      (before : Option (Cache.Entry (List ItemSummary))) :
      Effect drive now moment kept (.fetching range) before (.keeping range ⟨moment, items⟩) before
  | kept (range : PageRange) (fetch : Fetch) (before : Option (Cache.Entry (List ItemSummary))) :
      Effect drive now moment kept (.keeping range fetch) before
        (.listed (range.slice fetch.items) (some fetch))
        (some ⟨fetch.items, Cache.expiry now drive.listing.lifetime⟩)
  | dropped {stage next : Stage} (before : Option (Cache.Entry (List ItemSummary)))
      (plain : stage.IsPlain) (nextPlain : next.IsPlain) :
      Effect drive now moment kept stage before next none
  | aside {stage next : Stage} (before : Option (Cache.Entry (List ItemSummary)))
      (plain : stage.IsPlain) (nextPlain : next.IsPlain) :
      Effect drive now moment kept stage before next before

variable {drive : Drive World} {key : String} {caller : Caller World} {moment : Nat}
  {kept : Option Fetch} {stage : Stage} {session : Session World} {α : Type}

theorem onward_induction {motive : Stage → Prop} {action : Action (Session World) α}
    {next : α → Stage} {stop : Halt → Stage} (continues : ∀ value, motive (next value))
    (stops : ∀ halt, motive (stop halt)) : motive (onward action next stop session).1 := by
  unfold onward
  cases action.runOn session with
  | mk result session =>
      cases result with
      | ok value => exact continues value
      | error halt => exact stops halt

theorem keptEntry_outside {action : Action World α} {next : α → Stage} {stop : Halt → Stage} :
    keptEntry drive key (onward (Session.outside action) next stop session).2 =
      keptEntry drive key session := by
  unfold onward
  rw [Session.runOn_outside]
  cases (action.runOn session.world).1 <;> rfl

/-- A step outside leaves the kept listing alone. -/
theorem effect_outside {now : Instant} {action : Action World α} {next : α → Stage}
    {stop : Halt → Stage} (plain : stage.IsPlain) (continues : ∀ value, (next value).IsPlain)
    (stops : ∀ halt, (stop halt).IsPlain) :
    Effect drive now moment kept stage (keptEntry drive key session)
      (onward (Session.outside action) next stop session).1
      (keptEntry drive key (onward (Session.outside action) next stop session).2) := by
  rw [keptEntry_outside]
  exact .aside _ plain (onward_induction continues stops)

theorem effect_dropped {now : Instant} {next : Stage} {after : Session World}
    (absent : keptEntry drive key after = none) (plain : stage.IsPlain) (nextPlain : next.IsPlain) :
    Effect drive now moment kept stage (keptEntry drive key session) next
      (keptEntry drive key after) := by
  rw [absent]
  exact .dropped _ plain nextPlain

/-- A look serves the entry that is kept and live, and leaves none behind if there is no such
entry. -/
theorem effect_looking (range : PageRange) :
    Effect drive (drive.clock.now session.world) moment kept (.looking range)
      (keptEntry drive key session)
      (advance drive key caller moment kept (.looking range) session).1
      (keptEntry drive key (advance drive key caller moment kept (.looking range) session).2) := by
  rw [advance, onward, Listing.runOn_lookUp]
  cases live : drive.listing.live? drive.clock (accountKey key) session with
  | some entry =>
      obtain ⟨found, isLive⟩ := Option.filter_eq_some_iff.mp live
      have kept : keptEntry drive key session = some entry := found
      rw [Listing.looked_of_live live, kept]
      exact .served range entry isLive
  | none => exact effect_dropped (Listing.find?_looked_of_absent live) trivial trivial

theorem effect_advance (moment : Nat) (kept : Option Fetch) (going : stage.answer? = none) :
    Effect drive (drive.clock.now session.world) moment kept stage (keptEntry drive key session)
      (advance drive key caller moment kept stage session).1
      (keptEntry drive key (advance drive key caller moment kept stage session).2) := by
  cases stage with
  | looking range => exact effect_looking range
  | fetching range =>
      rw [advance, keptEntry_outside]
      exact onward_induction (motive := fun next => Effect _ _ _ _ _ _ next _)
        (fun items => .fetched range _ _) fun halt => .aside _ trivial trivial
  | keeping range fetch =>
      have found : keptEntry drive key
          (advance drive key caller moment kept (.keeping range fetch) session).2 =
          some ⟨fetch.items, Cache.expiry (drive.clock.now session.world)
            drive.listing.lifetime⟩ := Cache.find?_put _ _ _
      rw [found]
      exact .kept range fetch _
  | trashing id => exact effect_outside trivial (fun _ => trivial) fun _ => trivial
  | dropping id trashed => exact effect_dropped (Cache.find?_erase _ _) trivial trivial
  | opening input =>
      refine effect_outside trivial (fun found => ?_) fun _ => trivial
      obtain ⟨magnet, file⟩ := found
      cases file <;> trivial
  | presenting magnet file => exact effect_outside trivial (fun _ => trivial) fun _ => trivial
  | starting magnet => exact effect_outside trivial (fun _ => trivial) fun _ => trivial
  | announcing magnet task started =>
      exact effect_dropped (Cache.find?_erase _ _) trivial trivial
  | polling item taskId left last started =>
      refine effect_outside trivial (fun found => ?_) fun _ => trivial
      cases found <;> trivial
  | pausing item taskId left last started =>
      exact effect_outside trivial (fun _ => trivial) fun _ => trivial
  | settling item waited started => exact effect_dropped (Cache.find?_erase _ _) trivial trivial
  | describing item waited started =>
      exact effect_outside trivial (fun _ => trivial) fun _ => trivial
  | listed page source => cases going
  | unlisted halt => cases going
  | removed outcome trashed => cases going
  | added outcome started => cases going

/-- A call changes the drive at the moment of a step that it makes. -/
theorem isBefore_advance {bound : Nat} (now : moment < bound) (past : stage.IsBefore bound) :
    (advance drive key caller moment kept stage session).1.IsBefore bound := by
  have none : ∀ {next : Stage}, next.mutation? = none → next.IsBefore bound := by
    intro next none mutation isMutation
    rw [none] at isMutation
    cases isMutation
  have made : ∀ {next : Stage}, next.mutation? = some moment → next.IsBefore bound := by
    intro next made mutation isMutation
    rw [made] at isMutation
    cases isMutation
    exact now
  cases stage with
  | looking range =>
      refine onward_induction (fun found => ?_) fun halt => none rfl
      cases found <;> exact none rfl
  | fetching range => exact onward_induction (fun items => none rfl) fun halt => none rfl
  | keeping range fetch => exact onward_induction (fun _ => none rfl) fun halt => none rfl
  | trashing id => exact onward_induction (fun _ => made rfl) fun halt => made rfl
  | dropping id trashed => exact onward_induction (fun _ => past) fun halt => past
  | opening input =>
      refine onward_induction (fun found => ?_) fun halt => none rfl
      obtain ⟨magnet, file⟩ := found
      cases file <;> exact none rfl
  | presenting magnet file => exact onward_induction (fun item => none rfl) fun halt => none rfl
  | starting magnet => exact onward_induction (fun task => made rfl) fun halt => made rfl
  | announcing magnet task started => exact onward_induction (fun item => past) fun halt => past
  | polling item taskId left last started =>
      refine onward_induction (fun found => ?_) fun halt => past
      cases found <;> exact past
  | pausing item taskId left last started =>
      exact onward_induction (fun _ => past) fun halt => past
  | settling item waited started => exact onward_induction (fun _ => past) fun halt => past
  | describing item waited started => exact onward_induction (fun item => past) fun halt => past
  | listed page source => exact past
  | unlisted halt => exact past
  | removed outcome trashed => exact past
  | added outcome started => exact past

end StoreGate.PikPak
