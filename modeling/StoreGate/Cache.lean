import StoreGate.Duration
/-!
# A cache with lifetimes

Entries are kept under text keys, each until its own moment. Every access is one atomic section: a
look, which changes nothing, the eviction of an entry that has expired by then, and the sections
that write. An entry whose lifetime reaches beyond the clock never expires.
-/

namespace StoreGate

/-- A moment of the monotone clock, in nanoseconds. -/
abbrev Instant := Nat

namespace Cache

/-- The moment at which something stored now expires, if the clock ever gets there. -/
def expiry (now : Instant) (lifetime : Duration) : Option Instant :=
  let moment := now + lifetime.nanoseconds
  if moment < bitLimit 63 * nanosecondsPerSecond then some moment else none

structure Entry (α : Type) where
  value : α
  /-- The moment from which on the entry no longer counts. -/
  expires : Option Instant
  deriving Repr

def Entry.isLive {α : Type} (entry : Entry α) (now : Instant) : Bool :=
  entry.expires.all (now < ·)

end Cache

/-- Entries under distinct keys, the newest first. -/
structure Cache (α : Type) where
  entries : List (String × Cache.Entry α)
  distinct : (entries.map (·.1)).Nodup

namespace Cache

variable {α : Type}

def empty : Cache α := ⟨[], .nil⟩

instance : Inhabited (Cache α) := ⟨empty⟩

/-- The number of entries, with those that have expired and not been evicted. -/
def size (cache : Cache α) : Nat := cache.entries.length

def isEmpty (cache : Cache α) : Bool := cache.entries.isEmpty

/-- The entry under a key, whether it has expired or not. -/
def find? (cache : Cache α) (key : String) : Option (Entry α) :=
  cache.entries.lookup key

theorem nodup_filter_keys (entries : List (String × Entry α)) (keep : String × Entry α → Bool)
    (distinct : (entries.map (·.1)).Nodup) : ((entries.filter keep).map (·.1)).Nodup :=
  distinct.sublist (List.filter_sublist.map _)

/-- The entries that pass a test. -/
def filter (cache : Cache α) (keep : String × Entry α → Bool) : Cache α :=
  ⟨cache.entries.filter keep, nodup_filter_keys _ _ cache.distinct⟩

/-- The cache without a key. -/
def erase (cache : Cache α) (key : String) : Cache α :=
  cache.filter fun entry => entry.1 != key

/-- The cache with an entry under a key. -/
def put (cache : Cache α) (key : String) (entry : Entry α) : Cache α :=
  ⟨(key, entry) :: (cache.erase key).entries, by
    refine List.nodup_cons.2 ⟨fun member => ?_, (cache.erase key).distinct⟩
    obtain ⟨found, isThere, same⟩ := List.mem_map.1 member
    have kept := (List.mem_filter.1 isThere).2
    simp [same] at kept⟩

/-- What a look at a key finds. -/
inductive Look (α : Type) where
  | absent
  | live (value : α)
  | expired
  deriving Repr

/-- Looks at a key at a moment. -/
def look (cache : Cache α) (now : Instant) (key : String) : Look α :=
  match cache.find? key with
  | none => .absent
  | some entry => if entry.isLive now then .live entry.value else .expired

/-- Evicts the entry under a key if it has expired by now. -/
def evict (cache : Cache α) (now : Instant) (key : String) : Cache α :=
  match cache.look now key with
  | .expired => cache.erase key
  | _ => cache

/-- Looks at a key and evicts its entry if it has expired. -/
def get (cache : Cache α) (now : Instant) (key : String) : Option α × Cache α :=
  match cache.look now key with
  | .absent => (none, cache)
  | .live value => (some value, cache)
  | .expired => (none, cache.evict now key)

/-- Stores a value under a key for some time from now on. -/
def set (cache : Cache α) (now : Instant) (key : String) (value : α) (lifetime : Duration) :
    Cache α :=
  cache.put key ⟨value, expiry now lifetime⟩

/-- Evicts all entries that have expired by a moment. -/
def purge (cache : Cache α) (now : Instant) : Cache α :=
  cache.filter fun entry => entry.2.isLive now

end Cache

end StoreGate
