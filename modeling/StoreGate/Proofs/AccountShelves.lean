import StoreGate.Listing
import StoreGate.Proofs.NewestFirst
/-!
# A shelf for each account

What callers may expect of kept listings, told without a cache.  Each pair of a store and an account
has a shelf of its own, with at most one listing on it, sorted with the newest item first, and a
moment at which it ends.  A use is settled by the shelves, the source and the moment, and what
lies on other shelves does not matter for it.
-/

namespace StoreGate

namespace Listing

variable {World : Type}

/-- Where a listing is fetched from.  Time passes meanwhile. -/
structure Source (clock : Clock World) where
  fetch : Action World (List ItemSummary)
  forward : ∀ world, clock.now world ≤ clock.now (fetch.runOn world).2

/-- What befalls kept listings.  Time passes between two calls, too. -/
inductive Use (clock : Clock World) where
  | page (listing : Listing) (account : String) (range : PageRange) (source : Source clock)
  | drop (listing : Listing) (account : String)
  | pass (change : World → World) (forward : ∀ world, clock.now world ≤ clock.now (change world))

/-- What a caller sees: the page or the failure, and how often the call has fetched. -/
inductive Reply where
  | page (outcome : Except Halt ItemPage) (fetches : Nat)
  | done

/-- What lies on the shelf of an account: a listing, and the moment at which its lifetime ends. -/
structure Shelf where
  listing : List ItemSummary
  deadline : Instant

/-- Whether a listing may still be shown at a moment.  It always may if the clock, which counts
seconds with 63 bits, does not get as far as its deadline. -/
def Shelf.lasts (shelf : Shelf) (moment : Instant) : Bool :=
  moment < shelf.deadline || bitLimit 63 * nanosecondsPerSecond ≤ shelf.deadline

/-- The items of a listing from an offset on, as many as there may be, and how many there are in
all. -/
def cut (range : PageRange) (listing : List ItemSummary) : ItemPage :=
  ⟨listing.extract range.offset (range.offset + range.limit), listing.length⟩

theorem slice_eq_cut (range : PageRange) (listing : List ItemSummary) :
    range.slice listing = cut range listing := by
  rw [PageRange.slice, cut, List.extract_eq_take_drop, Nat.add_sub_cancel_left]

/-- Shelves for the listings of all accounts, beside the world of their services. -/
structure Shelves (World : Type) where
  kept : Store → String → Option Shelf
  world : World

namespace Shelves

/-- Nothing lies on any shelf. -/
def bare (world : World) : Shelves World := ⟨fun _ _ => none, world⟩

/-- Replaces what lies on the shelf of an account. -/
def put (shelves : Shelves World) (store : Store) (account : String) (shelf : Option Shelf) :
    Shelves World :=
  { shelves with
    kept := fun other name =>
      if other = store ∧ name = account then shelf else shelves.kept other name }

theorem kept_put (shelves : Shelves World) (store : Store) (account : String)
    (shelf : Option Shelf) : (shelves.put store account shelf).kept store account = shelf :=
  if_pos ⟨rfl, rfl⟩

theorem kept_put_of_ne (shelves : Shelves World) {store other : Store} {account name : String}
    (shelf : Option Shelf) (differ : ¬ (other = store ∧ name = account)) :
    (shelves.put store account shelf).kept other name = shelves.kept other name :=
  if_neg differ

theorem put_comm (shelves : Shelves World) {store other : Store} {account name : String}
    (first second : Option Shelf) (differ : ¬ (other = store ∧ name = account)) :
    (shelves.put store account first).put other name second =
      (shelves.put other name second).put store account first := by
  unfold put
  congr 1
  funext some called
  dsimp only
  split
  · rename_i there
    rw [if_neg fun both => differ ⟨there.1.symm.trans both.1, there.2.symm.trans both.2⟩]
  · rfl

end Shelves

/-- What becomes of a use if every account has a shelf of its own, and what a caller sees then. -/
inductive Apart {clock : Clock World} : Use clock → Shelves World → Reply → Shelves World → Prop
  /-- A listing that lasts is shown, and nothing is fetched. -/
  | shown {listing : Listing} {account : String} {range : PageRange} {source : Source clock}
      {shelves : Shelves World} {shelf : Shelf}
      (kept : shelves.kept listing.store account = some shelf)
      (lasts : shelf.lasts (clock.now shelves.world) = true) :
      Apart (.page listing account range source) shelves
        (.page (.ok (cut range shelf.listing)) 0) shelves
  /-- Without one the items are fetched, and put on the shelf with the newest first, to last from
  then on. -/
  | fetched {listing : Listing} {account : String} {range : PageRange} {source : Source clock}
      {shelves : Shelves World} {items found : List ItemSummary} {world : World}
      (stale : ∀ shelf ∈ shelves.kept listing.store account,
        shelf.lasts (clock.now shelves.world) = false)
      (given : source.fetch.runOn shelves.world = (.ok items, world))
      (sorted : IsNewestFirst items found) :
      Apart (.page listing account range source) shelves (.page (.ok (cut range found)) 1)
        { shelves.put listing.store account
          (some ⟨found, clock.now world + listing.lifetime.nanoseconds⟩) with world }
  /-- A failure to fetch them leaves all shelves as they are. -/
  | failed {listing : Listing} {account : String} {range : PageRange} {source : Source clock}
      {shelves : Shelves World} {halt : Halt} {world : World}
      (stale : ∀ shelf ∈ shelves.kept listing.store account,
        shelf.lasts (clock.now shelves.world) = false)
      (given : source.fetch.runOn shelves.world = (.error halt, world)) :
      Apart (.page listing account range source) shelves (.page (.error halt) 1)
        { shelves with world }
  | dropped {listing : Listing} {account : String} {shelves : Shelves World} :
      Apart (.drop listing account) shelves .done (shelves.put listing.store account none)
  | passed {change : World → World}
      {forward : ∀ world, clock.now world ≤ clock.now (change world)} {shelves : Shelves World} :
      Apart (.pass change forward) shelves .done { shelves with world := change shelves.world }

/-- What a caller sees of uses, one after another, if every account has a shelf of its own. -/
inductive RunsApart {clock : Clock World} : List (Use clock) → Shelves World → List Reply → Prop
  | nil {shelves : Shelves World} : RunsApart [] shelves []
  | cons {use : Use clock} {uses : List (Use clock)} {shelves next : Shelves World}
      {reply : Reply} {replies : List Reply} (first : Apart use shelves reply next)
      (rest : RunsApart uses next replies) : RunsApart (use :: uses) shelves (reply :: replies)

variable {clock : Clock World} {use : Use clock} {uses : List (Use clock)}
  {shelves next : Shelves World} {reply : Reply} {replies : List Reply}

/-- What becomes of a use is settled. -/
theorem Apart.unique (first : Apart use shelves reply next) {other : Reply}
    {otherNext : Shelves World} (second : Apart use shelves other otherNext) :
    reply = other ∧ next = otherNext := by
  cases first with
  | shown kept lasts =>
      cases second with
      | shown keptToo lastsToo =>
          cases kept.symm.trans keptToo
          exact ⟨rfl, rfl⟩
      | fetched stale given sorted => exact absurd lasts (Bool.eq_false_iff.mp (stale _ kept))
      | failed stale given => exact absurd lasts (Bool.eq_false_iff.mp (stale _ kept))
  | fetched stale given sorted =>
      cases second with
      | shown kept lasts => exact absurd lasts (Bool.eq_false_iff.mp (stale _ kept))
      | fetched staleToo givenToo sortedToo =>
          cases given.symm.trans givenToo
          cases sorted.unique sortedToo
          exact ⟨rfl, rfl⟩
      | failed staleToo givenToo => cases given.symm.trans givenToo
  | failed stale given =>
      cases second with
      | shown kept lasts => exact absurd lasts (Bool.eq_false_iff.mp (stale _ kept))
      | fetched staleToo givenToo sorted => cases given.symm.trans givenToo
      | failed staleToo givenToo =>
          cases given.symm.trans givenToo
          exact ⟨rfl, rfl⟩
  | dropped => cases second; exact ⟨rfl, rfl⟩
  | passed => cases second; exact ⟨rfl, rfl⟩

theorem RunsApart.unique (first : RunsApart uses shelves replies) {others : List Reply}
    (second : RunsApart uses shelves others) : replies = others := by
  induction first generalizing others with
  | nil => cases second; rfl
  | cons step rest ih =>
      cases second with
      | cons otherStep otherRest =>
          obtain ⟨rfl, rfl⟩ := step.unique otherStep
          rw [ih otherRest]

/-- Whether a use asks for the listing of an account or drops it. -/
def Use.IsAbout (store : Store) (account : String) : Use clock → Prop
  | .page listing name _ _ => listing.store = store ∧ name = account
  | .drop listing name => listing.store = store ∧ name = account
  | .pass _ _ => False

/-- What is not about an account goes on in the same way when its shelf is emptied. -/
theorem Apart.elsewhere (step : Apart use shelves reply next) {store : Store} {account : String}
    (other : ¬ use.IsAbout store account) :
    Apart use (shelves.put store account none) reply (next.put store account none) := by
  cases step with
  | shown kept lasts => exact .shown ((shelves.kept_put_of_ne none other).trans kept) lasts
  | @fetched listing name range source _ items found world stale given sorted =>
      -- One shelf is emptied and another one filled, in either order.
      let shelf : Shelf := ⟨found, clock.now world + listing.lifetime.nanoseconds⟩
      have emptied : { (shelves.put store account none).put listing.store name (some shelf) with
          world } = Shelves.put { shelves.put listing.store name (some shelf) with world }
            store account none := by
        rw [shelves.put_comm none (some shelf) other]
        rfl
      rw [← emptied]
      exact .fetched ((shelves.kept_put_of_ne none other).symm ▸ stale) given sorted
  | failed stale given => exact .failed ((shelves.kept_put_of_ne none other).symm ▸ stale) given
  | dropped =>
      rw [← shelves.put_comm none none other]
      exact .dropped
  | passed => exact .passed

theorem RunsApart.elsewhere (run : RunsApart uses shelves replies) {store : Store}
    {account : String} (others : ∀ use ∈ uses, ¬ use.IsAbout store account) :
    RunsApart uses (shelves.put store account none) replies := by
  induction run with
  | nil => exact .nil
  | cons step rest ih =>
      exact .cons (step.elsewhere (others _ List.mem_cons_self))
        (ih fun use member => others use (List.mem_cons_of_mem _ member))

end Listing

end StoreGate
