import Mathlib.Tactic.FinCases
import StoreGate.Proofs.AccountShelves
import StoreGate.Proofs.ListingPages
import StoreGate.Proofs.RecordedCalls
/-!
# One cache for all accounts

The listings of all accounts of all stores share one cache, under keys put together from texts, and
expired entries stay in it until they are looked at.  Callers cannot tell it from a shelf for each
account: they are given the same pages and the same failures, and the same calls fetch.
-/

namespace StoreGate

namespace Listing

variable {World : Type}

namespace Use

variable {clock : Clock World}

/-- What the stores do, with one cache for all of them. -/
def perform : Use clock → Session World → Reply × Session World
  | .page listing account range source, session =>
    let (outcome, ⟨listings, world, fetches⟩) :=
      (listing.page (clock.beside Nat) account range source.fetch.counted).runOn
        ⟨session.listings, session.world, 0⟩
    (.page outcome fetches, ⟨listings, world⟩)
  | .drop listing account, session => (.done, ((listing.forget account).runOn session).2)
  | .pass change _, session => (.done, { session with world := change session.world })

/-- A page is cut from a live listing, or the listing is fetched once, which may fail. -/
theorem perform_page_cases (listing : Listing) (account : String) (range : PageRange)
    (source : Source clock) (session : Session World) :
    (∃ entry, listing.live? clock account session = some entry ∧
      (page listing account range source).perform session =
        (.page (.ok (range.slice entry.value)) 0, session)) ∨
    (listing.live? clock account session = none ∧
      ∃ halt world, source.fetch.runOn session.world = (.error halt, world) ∧
        (page listing account range source).perform session =
          (.page (.error halt) 1, ⟨listing.looked clock account session, world⟩)) ∨
    (listing.live? clock account session = none ∧
      ∃ items world, source.fetch.runOn session.world = (.ok items, world) ∧
        (page listing account range source).perform session =
          (.page (.ok (range.slice (newestFirst items))) 1,
            ⟨(listing.looked clock account session).set (clock.now world) (listing.key account)
              (newestFirst items) listing.lifetime, world⟩)) := by
  have counted := source.fetch.runOn_counted session.world 0
  obtain ⟨entry, live, paged⟩ | ⟨absent, halt, world, failed, paged⟩ |
      ⟨absent, items, world, fetched, paged⟩ :=
    page_cases listing (clock.beside Nat) account range source.fetch.counted
      ⟨session.listings, session.world, 0⟩
  · exact .inl ⟨entry, live, by rw [perform, paged]⟩
  · obtain ⟨given, rfl⟩ := Prod.mk.inj (counted.symm.trans failed)
    exact .inr (.inl ⟨absent, halt, _, Prod.ext given rfl, by rw [perform, paged]; rfl⟩)
  · obtain ⟨given, rfl⟩ := Prod.mk.inj (counted.symm.trans fetched)
    exact .inr (.inr ⟨absent, items, _, Prod.ext given rfl, by rw [perform, paged]; rfl⟩)

theorem perform_page_of_live {listing : Listing} {account : String} {session : Session World}
    {entry : Cache.Entry (List ItemSummary)}
    (live : listing.live? clock account session = some entry) (range : PageRange)
    (source : Source clock) :
    (page listing account range source).perform session =
      (.page (.ok (range.slice entry.value)) 0, session) := by
  obtain ⟨served, found, performed⟩ | ⟨absent, _⟩ | ⟨absent, _⟩ :=
    perform_page_cases listing account range source session
  · cases live.symm.trans found
    exact performed
  · cases live.symm.trans absent
  · cases live.symm.trans absent

end Use

section Runs

variable {clock : Clock World}

/-- The replies to uses, one after another, and the session that is left behind them. -/
def run : List (Use clock) → Session World → List Reply × Session World
  | [], session => ([], session)
  | use :: uses, session =>
    let (reply, next) := use.perform session
    let (replies, last) := run uses next
    (reply :: replies, last)

/-- What uses leave behind that find nothing kept. -/
def reached (uses : List (Use clock)) (world : World) : Session World :=
  (run uses ⟨Cache.empty, world⟩).2

/-- The cache holds what the shelves hold, but for what does not last any more. -/
structure Matches (clock : Clock World) (session : Session World) (shelves : Shelves World) :
    Prop where
  world : session.world = shelves.world
  kept : ∀ (listing : Listing) account later, clock.now session.world ≤ later →
    (session.listings.live? later (listing.key account)).map Cache.Entry.value =
      ((shelves.kept listing.store account).filter (·.lasts later)).map Shelf.listing

variable {session other : Session World} {shelves : Shelves World} {use : Use clock}
  {uses : List (Use clock)} {listing : Listing} {account : String} {range : PageRange}
  {source : Source clock}

/-- Nothing is kept in either of them. -/
theorem matches_bare (world : World) : Matches clock ⟨Cache.empty, world⟩ (Shelves.bare world) :=
  ⟨rfl, fun _ _ _ _ => rfl⟩

/-- An entry is live as long as the listing lasts that is over when its lifetime is. -/
theorem isLive_eq_lasts (items : List ItemSummary) (now later : Instant) (lifetime : Duration) :
    Cache.Entry.isLive ⟨items, Cache.expiry now lifetime⟩ later =
      (Shelf.mk items (now + lifetime.nanoseconds)).lasts later := by
  unfold Cache.Entry.isLive Cache.expiry Shelf.lasts
  dsimp only
  split
  · rename_i inside
    rw [Option.all_some, decide_eq_false (Nat.not_le_of_lt inside), Bool.or_false]
  · rename_i beyond
    rw [Option.all_none, decide_eq_true (Nat.le_of_not_lt beyond), Bool.or_true]

namespace Matches

theorem pass (agree : Matches clock session shelves) {world : World}
    (forward : clock.now session.world ≤ clock.now world) :
    Matches clock { session with world } { shelves with world } :=
  ⟨rfl, fun listing account later moment =>
    agree.kept listing account later (Nat.le_trans forward moment)⟩

theorem looked (agree : Matches clock session shelves) (listing : Listing) (account : String) :
    Matches clock { session with listings := listing.looked clock account session } shelves := by
  refine ⟨agree.world, fun other name later moment => ?_⟩
  rw [← agree.kept other name later moment]
  exact congrArg (Option.map _)
    (Cache.live?_get session.listings moment (listing.key account) (other.key name))

/-- A change under one key is a change on one shelf. -/
theorem replace (agree : Matches clock session shelves) {listings : Cache (List ItemSummary)}
    {shelf : Option Shelf}
    (there : ∀ later, (listings.live? later (listing.key account)).map Cache.Entry.value =
      (shelf.filter (·.lasts later)).map Shelf.listing)
    (elsewhere : ∀ {key}, key ≠ listing.key account →
      listings.find? key = session.listings.find? key) :
    Matches clock { session with listings } (shelves.put listing.store account shelf) := by
  refine ⟨agree.world, fun other name later moment => ?_⟩
  by_cases same : other.store = listing.store ∧ name = account
  · rw [key_inj.mpr same, there, same.1, same.2, shelves.kept_put]
  · rw [shelves.kept_put_of_ne shelf same, ← agree.kept other name later moment, Cache.live?,
      Cache.live?, elsewhere (key_ne (not_and_or.mp same))]

theorem drop (agree : Matches clock session shelves) (listing : Listing) (account : String) :
    Matches clock { session with listings := session.listings.erase (listing.key account) }
      (shelves.put listing.store account none) := by
  refine agree.replace (fun later => ?_) session.listings.find?_erase_of_ne
  rw [Cache.live?, Cache.find?_erase]
  rfl

theorem keep (agree : Matches clock session shelves) (listing : Listing) (account : String)
    (found : List ItemSummary) (now : Instant) :
    Matches clock
      { session with
        listings := session.listings.set now (listing.key account) found listing.lifetime }
      (shelves.put listing.store account (some ⟨found, now + listing.lifetime.nanoseconds⟩)) := by
  refine agree.replace (fun later => ?_) (Cache.find?_put_of_ne _ _)
  rw [Cache.set, Cache.live?, Cache.find?_put, Option.filter_some, Option.filter_some,
    isLive_eq_lasts]
  split <;> rfl

/-- A live entry stands for a listing that lasts. -/
theorem exists_lasting (agree : Matches clock session shelves)
    {entry : Cache.Entry (List ItemSummary)}
    (live : listing.live? clock account session = some entry) :
    ∃ shelf, shelves.kept listing.store account = some shelf ∧
      shelf.lasts (clock.now shelves.world) = true ∧ shelf.listing = entry.value := by
  have same := agree.kept listing account (clock.now session.world) (Nat.le_refl _)
  rw [← live?, live, Option.map_some, agree.world] at same
  obtain ⟨shelf, lasting, listed⟩ := Option.map_eq_some_iff.mp same.symm
  obtain ⟨kept, lasts⟩ := Option.filter_eq_some_iff.mp lasting
  exact ⟨shelf, kept, lasts, listed⟩

/-- Where no entry is live, no listing lasts. -/
theorem none_lasts (agree : Matches clock session shelves)
    (absent : listing.live? clock account session = none) :
    ∀ shelf ∈ shelves.kept listing.store account,
      shelf.lasts (clock.now shelves.world) = false := by
  have same := agree.kept listing account (clock.now session.world) (Nat.le_refl _)
  rw [← live?, absent, Option.map_none, agree.world] at same
  have nothing : (shelves.kept listing.store account).filter
      (·.lasts (clock.now shelves.world)) = none := Option.map_eq_none_iff.mp same.symm
  intro shelf kept
  have ended := Option.filter_eq_none_iff.mp nothing shelf kept
  rwa [Bool.not_eq_true] at ended

/-- Callers cannot tell the cache from the shelves by one use, and the two stay alike. -/
theorem exists_apart (agree : Matches clock session shelves) (use : Use clock) :
    ∃ next, Apart use shelves (use.perform session).1 next ∧
      Matches clock (use.perform session).2 next := by
  cases use with
  | pass change forward =>
      refine ⟨_, .passed, ?_⟩
      rw [← agree.world]
      exact agree.pass (forward session.world)
  | drop listing account => exact ⟨_, .dropped, agree.drop listing account⟩
  | page listing account range source =>
      have moved := source.forward session.world
      obtain ⟨entry, live, performed⟩ | ⟨absent, halt, world, failed, performed⟩ |
          ⟨absent, items, world, fetched, performed⟩ :=
        Use.perform_page_cases listing account range source session
      · obtain ⟨shelf, kept, lasts, listed⟩ := agree.exists_lasting live
        rw [performed, slice_eq_cut, ← listed]
        exact ⟨shelves, .shown kept lasts, agree⟩
      · rw [failed] at moved
        rw [agree.world] at failed
        rw [performed]
        exact ⟨_, .failed (agree.none_lasts absent) failed,
          (agree.looked listing account).pass moved⟩
      · rw [fetched] at moved
        rw [agree.world] at fetched
        rw [performed, slice_eq_cut]
        exact ⟨_, .fetched (agree.none_lasts absent) fetched (isNewestFirst items),
          ((agree.looked listing account).keep listing account _ _).pass moved⟩

theorem runsApart (agree : Matches clock session shelves) (uses : List (Use clock)) :
    RunsApart uses shelves (run uses session).1 := by
  induction uses generalizing session shelves with
  | nil => exact .nil
  | cons use uses ih =>
      obtain ⟨next, step, stays⟩ := agree.exists_apart use
      exact .cons step (ih stays)

theorem exists_of_run (agree : Matches clock session shelves) (uses : List (Use clock)) :
    ∃ last, Matches clock (run uses session).2 last := by
  induction uses generalizing session shelves with
  | nil => exact ⟨shelves, agree⟩
  | cons use uses ih =>
      obtain ⟨next, _, stays⟩ := agree.exists_apart use
      exact ih stays

/-- Callers cannot tell caches apart that hold what the same shelves hold. -/
theorem replies_eq (agree : Matches clock session shelves) (alike : Matches clock other shelves)
    (uses : List (Use clock)) : (run uses session).1 = (run uses other).1 :=
  (agree.runsApart uses).unique (alike.runsApart uses)

end Matches

theorem exists_matches_reached (uses : List (Use clock)) (world : World) :
    ∃ shelves, Matches clock (reached uses world) shelves :=
  (matches_bare world).exists_of_run uses

/-- Time never runs backwards. -/
theorem now_le_perform (use : Use clock) (session : Session World) :
    clock.now session.world ≤ clock.now (use.perform session).2.world := by
  cases use with
  | pass change forward => exact forward session.world
  | drop listing account => exact Nat.le_refl _
  | page listing account range source =>
      have moved := source.forward session.world
      obtain ⟨_, _, performed⟩ | ⟨_, _, _, failed, performed⟩ | ⟨_, _, _, fetched, performed⟩ :=
        Use.perform_page_cases listing account range source session
      · rw [performed]
      · rw [failed] at moved
        rw [performed]
        exact moved
      · rw [fetched] at moved
        rw [performed]
        exact moved

theorem now_le_run (uses : List (Use clock)) (session : Session World) :
    clock.now session.world ≤ clock.now (run uses session).2.world := by
  induction uses generalizing session with
  | nil => exact Nat.le_refl _
  | cons use uses ih => exact Nat.le_trans (now_le_perform use session) (ih _)

/-- Whether a use drops the listing of an account. -/
def Use.Drops (store : Store) (account : String) : Use clock → Prop
  | .drop listing name => listing.store = store ∧ name = account
  | _ => False

/-- A live listing stays unless it is dropped. -/
theorem find?_perform {listing : Listing} {account : String}
    {entry : Cache.Entry (List ItemSummary)}
    (found : session.listings.find? (listing.key account) = some entry)
    (live : entry.isLive (clock.now session.world) = true) {use : Use clock}
    (keeps : ¬ use.Drops listing.store account) :
    (use.perform session).2.listings.find? (listing.key account) = some entry := by
  cases use with
  | pass change forward => exact found
  | drop other name =>
      have differ : listing.store ≠ other.store ∨ account ≠ name :=
        not_and_or.mp fun same => keeps ⟨same.1.symm, same.2.symm⟩
      exact (session.listings.find?_erase_of_ne (key_ne differ)).trans found
  | page other name range source =>
      obtain ⟨_, _, performed⟩ | ⟨absent, _, _, _, performed⟩ | ⟨absent, _, _, _, performed⟩ :=
        Use.perform_page_cases other name range source session
      · rw [performed]
        exact found
      -- The live listing would have been served, so the one that is fetched is another one.
      all_goals
        have differ : listing.key account ≠ other.key name := by
          intro same
          cases (live?_of_found (same ▸ found) live).symm.trans absent
        have looked : (other.looked clock name session).find? (listing.key account) = some entry :=
          (session.listings.find?_get_of_ne _ differ).trans found
        rw [performed]
      · exact looked
      · exact (Cache.find?_put_of_ne _ _ differ).trans looked

theorem find?_run {listing : Listing} {account : String}
    {entry : Cache.Entry (List ItemSummary)} {uses : List (Use clock)}
    (found : session.listings.find? (listing.key account) = some entry)
    (live : entry.isLive (clock.now (run uses session).2.world) = true)
    (keeps : ∀ use ∈ uses, ¬ use.Drops listing.store account) :
    (run uses session).2.listings.find? (listing.key account) = some entry := by
  induction uses generalizing session with
  | nil => exact found
  | cons use uses ih =>
      -- Time goes forward only, so what is live in the end has been live all the while.
      have liveNow := Cache.isLive_mono (now_le_run (use :: uses) session) live
      have stays := find?_perform found liveNow (keeps use List.mem_cons_self)
      exact ih stays live fun other member => keeps other (List.mem_cons_of_mem use member)

/-- A page call that fails leaves nothing behind that a later use can tell, but a later world. -/
theorem replies_of_failed (agree : Matches clock session shelves) {halt : Halt} {fetches : Nat}
    {after : Session World}
    (failed : (Use.page listing account range source).perform session =
      (.page (.error halt) fetches, after)) (uses : List (Use clock)) :
    (run uses after).1 = (run uses { session with world := after.world }).1 := by
  have forward := now_le_perform (.page listing account range source) session
  obtain ⟨next, step, stays⟩ := agree.exists_apart (.page listing account range source)
  rw [failed] at forward step stays
  cases step with
  | failed stale given =>
      cases stays.world
      exact stays.replies_eq (agree.pass forward) uses

/-- Dropping the listing of an account changes nothing for uses that are not about it. -/
theorem replies_of_dropped (agree : Matches clock session shelves) (listing : Listing)
    (account : String) (others : ∀ use ∈ uses, ¬ use.IsAbout listing.store account) :
    (run uses ((Use.drop listing account : Use clock).perform session).2).1 =
      (run uses session).1 := by
  have dropped := (agree.drop listing account).runsApart uses
  exact dropped.unique ((agree.runsApart uses).elsewhere others)

/-- A listing that has been fetched is served without another fetch until its lifetime is over. -/
theorem page_within_lifetime {page : ItemPage} {after : Session World}
    (fetched : (Use.page listing account range source).perform session =
      (.page (.ok page) 1, after)) :
    ∃ items found, (source.fetch.runOn session.world).1 = .ok items ∧
      IsNewestFirst items found ∧ page = cut range found ∧
      ∀ between : List (Use clock), (∀ use ∈ between, ¬ use.Drops listing.store account) →
        clock.now (run between after).2.world <
          clock.now after.world + listing.lifetime.nanoseconds →
        ∀ (other : Listing) range (source : Source clock), other.store = listing.store →
          ((Use.page other account range source).perform (run between after).2).1 =
            .page (.ok (cut range found)) 0 := by
  obtain ⟨_, _, performed⟩ | ⟨_, _, _, _, performed⟩ | ⟨_, items, world, given, performed⟩ :=
    Use.perform_page_cases listing account range source session
  · cases fetched.symm.trans performed
  · cases fetched.symm.trans performed
  · cases fetched.symm.trans performed
    refine ⟨items, newestFirst items, congrArg Prod.fst given, isNewestFirst items,
      slice_eq_cut range _, ?_⟩
    intro between keeps inTime other range source sameStore
    have live := Cache.isLive_of_lt_lifetime (newestFirst items) inTime
    have kept := find?_run (Cache.find?_put _ _ _) live keeps
    have sameKey : other.key account = listing.key account := key_inj.mpr ⟨sameStore, rfl⟩
    rw [Use.perform_page_of_live (live?_of_found (sameKey ▸ kept) live), slice_eq_cut]

/-- Whatever stores and accounts do with the cache that they share, the pages, the failures and the
fetches are those of separate shelves, and no others.  A call that fails keeps nothing and disturbs
nothing, dropping one listing changes nothing for all others, and no call fetches while a listing
that has been fetched lasts and is not dropped. -/
theorem run_eq_apart (clock : Clock World) :
    (∀ (uses : List (Use clock)) world replies,
      RunsApart uses (Shelves.bare world) replies ↔
        (run uses ⟨Cache.empty, world⟩).1 = replies) ∧
    (∀ (before uses : List (Use clock)) world listing account range (source : Source clock) halt
        fetches after,
      (Use.page listing account range source).perform (reached before world) =
          (.page (.error halt) fetches, after) →
        (run uses after).1 =
          (run uses { reached before world with world := after.world }).1) ∧
    (∀ (before uses : List (Use clock)) world (listing : Listing) account,
      (∀ use ∈ uses, ¬ use.IsAbout listing.store account) →
        (run uses ((Use.drop listing account : Use clock).perform (reached before world)).2).1 =
          (run uses (reached before world)).1) ∧
    (∀ listing account range (source : Source clock) session page after,
      (Use.page listing account range source).perform session = (.page (.ok page) 1, after) →
        ∃ items found, (source.fetch.runOn session.world).1 = .ok items ∧
          IsNewestFirst items found ∧ page = cut range found ∧
          ∀ between : List (Use clock), (∀ use ∈ between, ¬ use.Drops listing.store account) →
            clock.now (run between after).2.world <
              clock.now after.world + listing.lifetime.nanoseconds →
            ∀ (other : Listing) range (source : Source clock), other.store = listing.store →
              ((Use.page other account range source).perform (run between after).2).1 =
                .page (.ok (cut range found)) 0) := by
  refine ⟨?_, ?_, ?_, ?_⟩
  · intro uses world replies
    have bare : Matches clock ⟨Cache.empty, world⟩ (Shelves.bare world) := matches_bare world
    have performed := bare.runsApart uses
    exact ⟨performed.unique, fun same => same ▸ performed⟩
  · intro before uses world listing account range source halt fetches after failed
    obtain ⟨shelves, agree⟩ := exists_matches_reached before world
    exact replies_of_failed agree failed uses
  · intro before uses world listing account others
    obtain ⟨shelves, agree⟩ := exists_matches_reached before world
    exact replies_of_dropped agree listing account others
  · intro listing account range source session page after fetched
    exact page_within_lifetime fetched

end Runs

section Ticks

/-- A world in which nothing happens but that time passes. -/
def ticks : Clock Nat :=
  ⟨id, fun _ => Timestamp.epoch, fun length moment => moment + length.nanoseconds⟩

/-- Answers after two nanoseconds. -/
def Source.slow (outcome : Outcome (List ItemSummary)) : Source ticks where
  fetch := do
    modify (· + 2)
    Action.ofOutcome outcome
  forward moment := by cases outcome <;> exact Nat.le_add_right moment 2

def reset : Failure := .network "connection reset"

def deadSource : Source ticks := .slow (.error reset)

/-- A listing for ten nanoseconds. -/
def brief (store : Store) : Listing := ⟨store, ⟨10⟩⟩

def dated (name : String) (seconds : Int) : ItemSummary :=
  ⟨name, name, "", 0, .downloaded, ⟨seconds, 0⟩⟩

/-- Two of these items have been added at the same time. -/
def mixedSource : Source ticks :=
  .slow (.ok [dated "old" 1, dated "first" 2, dated "new" 3, dated "second" 2])

def mixedSorted : List ItemSummary :=
  [dated "new" 3, dated "first" 2, dated "second" 2, dated "old" 1]

theorem isNewestFirst_mixed : IsNewestFirst
    [dated "old" 1, dated "first" 2, dated "new" 3, dated "second" 2] mixedSorted := by
  have sorted : newestFirst [dated "old" 1, dated "first" 2, dated "new" 3, dated "second" 2] =
      mixedSorted := by
    simp [newestFirst, List.mergeSort, List.MergeSort.Internal.splitInTwo, mixedSorted, dated,
      Timestamp.atMost]
  exact sorted ▸ isNewestFirst _

def laterSource : Source ticks := .slow (.ok [dated "new" 3, dated "newer" 4])

def laterSorted : List ItemSummary := [dated "newer" 4, dated "new" 3]

theorem isNewestFirst_later :
    IsNewestFirst [dated "new" 3, dated "newer" 4] laterSorted := by
  have sorted : newestFirst [dated "new" 3, dated "newer" 4] = laterSorted := by
    simp [newestFirst, List.mergeSort, List.MergeSort.Internal.splitInTwo, laterSorted, dated,
      Timestamp.atMost]
  exact sorted ▸ isNewestFirst _

def onePage (range : PageRange) (source : Source ticks) : Use ticks :=
  .page (brief .pikPak) "one" range source

def twoPage : Use ticks := .page (brief .pikPak) "two" .first deadSource

/-- Another account fails, another store drops what it keeps, and five nanoseconds pass. -/
def meanwhile : List (Use ticks) :=
  [twoPage, .drop (brief .seedr) "one", .pass (· + 5) fun moment => Nat.le_add_right moment 5]

/-- A listing that is fetched until the moment 2 lasts until 12. It is served at 9, fetched again
after 12, and once more after it has been dropped. -/
def day : List (Use ticks) :=
  onePage ⟨0, 2⟩ mixedSource :: meanwhile ++
    [onePage ⟨1, 3⟩ deadSource, .pass (· + 3) fun moment => Nat.le_add_right moment 3,
      onePage .first laterSource, .drop (brief .pikPak) "one", onePage .first mixedSource]

def dayReplies : List Reply :=
  [.page (.ok ⟨[dated "new" 3, dated "first" 2], 4⟩) 1,
    .page (.error (.failure reset)) 1,
    .done,
    .done,
    .page (.ok ⟨[dated "first" 2, dated "second" 2, dated "old" 1], 4⟩) 0,
    .done,
    .page (.ok ⟨laterSorted, 2⟩) 1,
    .done,
    .page (.ok ⟨mixedSorted, 4⟩) 1]

theorem day_runsApart : RunsApart day (Shelves.bare 0) dayReplies := by
  have bare (moment : Instant) : ∀ shelf ∈ (none : Option Shelf), shelf.lasts moment = false :=
    nofun
  refine .cons (.fetched (bare 0) rfl isNewestFirst_mixed) ?_
  refine .cons (.failed (bare 2) rfl) ?_
  refine .cons .dropped ?_
  refine .cons .passed ?_
  show RunsApart (_ :: _) _ (.page (.ok (cut ⟨1, 3⟩ (Shelf.mk mixedSorted 12).listing)) 0 :: _)
  refine .cons (.shown rfl rfl) ?_
  refine .cons .passed ?_
  have stale : ∀ shelf ∈ some (Shelf.mk mixedSorted 12), shelf.lasts 12 = false := by
    rintro shelf ⟨⟩
    decide
  refine .cons (.fetched stale rfl isNewestFirst_later) ?_
  refine .cons .dropped ?_
  refine .cons (.fetched (bare 14) rfl isNewestFirst_mixed) ?_
  exact .nil

/-- The listing of the first account has been fetched. -/
def oneKept : Session Nat := reached [onePage ⟨0, 2⟩ mixedSource] 0

/-- Another account has failed after that. -/
def twoFailed : Session Nat := (twoPage.perform oneKept).2

def bothFetched : List (Use ticks) :=
  [onePage ⟨0, 2⟩ mixedSource, .page (brief .pikPak) "two" .first laterSource]

/-- Listings of several items are fetched, served, over and dropped. -/
theorem run_eq_apart_ticks :
    (RunsApart day (Shelves.bare 0) dayReplies ∧ (run day ⟨Cache.empty, 0⟩).1 = dayReplies) ∧
    (twoPage.perform oneKept = (.page (.error (.failure reset)) 1, twoFailed) ∧
      (run [onePage ⟨1, 3⟩ deadSource] twoFailed).1 =
        (run [onePage ⟨1, 3⟩ deadSource] { oneKept with world := 4 }).1) ∧
    (run [onePage ⟨1, 3⟩ deadSource]
        ((Use.drop (brief .pikPak) "two" : Use ticks).perform (reached bothFetched 0)).2).1 =
      (run [onePage ⟨1, 3⟩ deadSource] (reached bothFetched 0)).1 ∧
    ((onePage ⟨1, 3⟩ deadSource).perform (run meanwhile oneKept).2).1 =
      .page (.ok ⟨[dated "first" 2, dated "second" 2, dated "old" 1], 4⟩) 0 := by
  obtain ⟨same, failing, dropping, lasting⟩ := run_eq_apart ticks
  have failed : twoPage.perform oneKept = (.page (.error (.failure reset)) 1, twoFailed) := rfl
  refine ⟨⟨day_runsApart, (same day 0 dayReplies).mp day_runsApart⟩, ⟨failed, ?_⟩, ?_, ?_⟩
  · exact failing [onePage ⟨0, 2⟩ mixedSource] [onePage ⟨1, 3⟩ deadSource] 0 _ _ _ _ _ _ _ failed
  · refine dropping bothFetched [onePage ⟨1, 3⟩ deadSource] 0 (brief .pikPak) "two" ?_
    intro use member
    cases List.mem_singleton.mp member
    exact fun about => absurd about.2 (by decide)
  · obtain ⟨items, found, given, sorted, _, served⟩ := lasting (brief .pikPak) "one" ⟨0, 2⟩
      mixedSource ⟨Cache.empty, 0⟩ _ oneKept rfl
    cases given
    cases sorted.unique isNewestFirst_mixed
    refine served meanwhile ?_ (by decide) (brief .pikPak) ⟨1, 3⟩ deadSource rfl
    intro use member
    fin_cases member
    · exact id
    · exact fun drops => absurd drops.1 (by decide)
    · exact id

end Ticks

end Listing

end StoreGate
