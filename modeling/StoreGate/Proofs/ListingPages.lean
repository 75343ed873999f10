import StoreGate.Listing
import StoreGate.Proofs.Actions
import StoreGate.Proofs.CacheEntries
import StoreGate.Proofs.StoreNames
import StoreGate.Proofs.TextParts
/-!
# Pages of kept listings

The key of a listing tells its store and its account.  A page is cut from the kept listing while
that is live.  Otherwise the listing is fetched, and it is kept if the fetch succeeds.
-/

namespace StoreGate.Listing

variable {World : Type} {clock : Clock World} {listing other : Listing} {account name : String}
  {range : PageRange} {fetch : Action World (List ItemSummary)} {session : Session World}

theorem key_inj :
    listing.key account = other.key name ↔ listing.store = other.store ∧ account = name := by
  constructor
  · intro same
    have characters := congrArg String.toList same
    simp only [key, String.toList_append, List.append_assoc, List.append_cancel_left_eq]
      at characters
    obtain ⟨names, accounts⟩ := Text.append_mark_inj listing.store.colon_not_mem_name
      other.store.colon_not_mem_name characters
    exact ⟨Store.name_injective (String.toList_inj.mp names),
      String.toList_inj.mp (List.append_cancel_left accounts)⟩
  · rintro ⟨stores, rfl⟩
    rw [key, key, stores]

theorem key_ne (differ : other.store ≠ listing.store ∨ name ≠ account) :
    other.key name ≠ listing.key account := by
  intro same
  obtain ⟨stores, accounts⟩ := key_inj.mp same
  cases differ with
  | inl differ => exact differ stores
  | inr differ => exact differ accounts

/-- The listing of an account that is kept and live in a session. -/
def live? (listing : Listing) (clock : Clock World) (account : String) (session : Session World) :
    Option (Cache.Entry (List ItemSummary)) :=
  session.listings.live? (clock.now session.world) (listing.key account)

theorem live?_of_found {entry : Cache.Entry (List ItemSummary)}
    (found : session.listings.find? (listing.key account) = some entry)
    (live : entry.isLive (clock.now session.world) = true) :
    listing.live? clock account session = some entry := by
  rw [live?, Cache.live?, found, Option.filter_some, if_pos live]

/-- What is kept once a look for the listing of an account has found nothing. -/
def looked (listing : Listing) (clock : Clock World) (account : String) (session : Session World) :
    Cache (List ItemSummary) :=
  (session.listings.get (clock.now session.world) (listing.key account)).2

/-- A look that finds a live entry leaves everything as it is. -/
theorem looked_of_live {entry : Cache.Entry (List ItemSummary)}
    (live : listing.live? clock account session = some entry) :
    listing.looked clock account session = session.listings := by
  obtain ⟨found, isLive⟩ := Option.filter_eq_some_iff.mp live
  exact congrArg Prod.snd (Cache.get_of_live found isLive)

/-- A look that finds nothing leaves nothing behind. -/
theorem find?_looked_of_absent (absent : listing.live? clock account session = none) :
    (listing.looked clock account session).find? (listing.key account) = none := by
  refine (Cache.get_of_not_live fun entry found => ?_).2
  rw [← Bool.not_eq_true]
  exact fun live => by cases (live?_of_found found live).symm.trans absent

theorem find?_looked_of_ne {key : String} (differ : key ≠ listing.key account) :
    (listing.looked clock account session).find? key = session.listings.find? key :=
  session.listings.find?_get_of_ne _ differ

theorem runOn_lookUp :
    (listing.lookUp clock account).runOn session =
      (.ok ((listing.live? clock account session).map Cache.Entry.value),
        { session with listings := listing.looked clock account session }) := by
  rw [live?, ← Cache.get_eq_live?]
  rfl

/-- A page is cut from a live listing.  Otherwise the listing is fetched, and kept unless that
fails. -/
theorem page_cases (listing : Listing) (clock : Clock World) (account : String) (range : PageRange)
    (fetch : Action World (List ItemSummary)) (session : Session World) :
    (∃ entry, listing.live? clock account session = some entry ∧
      (listing.page clock account range fetch).runOn session =
        (.ok (range.slice entry.value), session)) ∨
    (listing.live? clock account session = none ∧
      ∃ halt world, fetch.runOn session.world = (.error halt, world) ∧
        (listing.page clock account range fetch).runOn session =
          (.error halt, ⟨listing.looked clock account session, world⟩)) ∨
    (listing.live? clock account session = none ∧
      ∃ items world, fetch.runOn session.world = (.ok items, world) ∧
        (listing.page clock account range fetch).runOn session =
          (.ok (range.slice (newestFirst items)),
            ⟨(listing.looked clock account session).set (clock.now world) (listing.key account)
              (newestFirst items) listing.lifetime, world⟩)) := by
  rw [page, Action.runOn_bind, runOn_lookUp]
  cases live : listing.live? clock account session with
  | some entry =>
      rw [looked_of_live live]
      exact .inl ⟨entry, rfl, rfl⟩
  | none =>
      dsimp only [Option.map_none]
      rw [Action.runOn_bind, Session.runOn_outside]
      cases fetched : fetch.runOn session.world with
      | mk outcome world =>
          cases outcome with
          | error halt => exact .inr (.inl ⟨rfl, halt, world, rfl, rfl⟩)
          | ok items => exact .inr (.inr ⟨rfl, items, world, rfl, rfl⟩)

end StoreGate.Listing
