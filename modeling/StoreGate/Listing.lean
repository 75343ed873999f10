import StoreGate.Caller
import StoreGate.Crypto.Blake2b
import StoreGate.Hexadecimal
import StoreGate.Text.Utf8
/-!
# Listings that are kept for a while

A store fetches the complete listing of an account, sorts it with the newest item first, and serves
pages from it until it expires or the account changes. Accounts are told apart by a digest of their
credential.
-/

namespace StoreGate

/-- The account that a credential belongs to. -/
def accountKey (credential : String) : String :=
  String.ofList (Hexadecimal.encode (Crypto.Blake2b.digest 16 (Utf8.encode credential)))

/-- The listings of one store. -/
structure Listing where
  store : Store
  /-- How long a listing is kept. -/
  lifetime : Duration

namespace Listing

/-- How long listings are kept by default. -/
def standardLifetime : Duration := Duration.ofSeconds 300

/-- The key under which the listing of an account is kept. -/
def key (listing : Listing) (account : String) : String :=
  "store:" ++ listing.store.name ++ ":listMagnets:" ++ account

/-- The items with the newest first; items of the same time stay in order. -/
def newestFirst (items : List ItemSummary) : List ItemSummary :=
  items.mergeSort fun first second => second.addedAt.atMost first.addedAt

variable {World : Type}

/-- Looks for the listing of an account, and evicts it if it has expired. -/
def lookUp (listing : Listing) (clock : Clock World) (account : String) :
    Action (Session World) (Option (List ItemSummary)) := do
  let session ← get
  let (found, listings) := session.listings.get (clock.now session.world) (listing.key account)
  set { session with listings }
  return found

/-- Keeps a listing. -/
def remember (listing : Listing) (clock : Clock World) (account : String)
    (items : List ItemSummary) : Action (Session World) Unit :=
  modify fun session =>
    { session with
      listings := session.listings.set (clock.now session.world) (listing.key account) items
        listing.lifetime }

/-- Drops the listing of an account. -/
def forget (listing : Listing) (account : String) : Action (Session World) Unit :=
  modify fun session => { session with listings := session.listings.erase (listing.key account) }

/-- A page of the listing of an account, which is fetched unless it is kept. -/
def page (listing : Listing) (clock : Clock World) (account : String) (range : PageRange)
    (fetch : Action World (List ItemSummary)) : Action (Session World) ItemPage := do
  match ← listing.lookUp clock account with
  | some items => return range.slice items
  | none =>
    let items := newestFirst (← Session.outside fetch)
    listing.remember clock account items
    return range.slice items

end Listing

end StoreGate
