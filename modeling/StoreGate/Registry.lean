import StoreGate.PikPak.Client
import StoreGate.PikPak.Store
import StoreGate.Seedr.Client
import StoreGate.Seedr.Store
import StoreGate.Transport
/-!
# The registry of stores

The stores that are set up, each at most once and in the order of all stores. A store is found by its
name and by its code.
-/

namespace StoreGate

/-- The settings of the stores. A store without settings is not set up. -/
structure StoresConfig where
  pikPak : Option PikPak.Config
  seedr : Option Seedr.Config
  /-- How long listings are kept, in seconds. -/
  listingLifetime : Nat
  deriving DecidableEq, Repr

namespace StoresConfig

def standard : StoresConfig := ⟨none, none, Listing.standardLifetime.seconds⟩

def fieldNames : List String := ["pikpak", "seedr", "listing_cache_ttl_secs"]

def ofFields? (fields : Json.Fields) : Option StoresConfig := do
  return {
    pikPak := ← fields.optional "pikpak" PikPak.Config.ofJson?
    seedr := ← fields.optional "seedr" Seedr.Config.ofJson?
    listingLifetime := ← fields.withDefault "listing_cache_ttl_secs"
      Listing.standardLifetime.seconds (Json.natural? 64) }

def ofJson? (value : Json) : Option StoresConfig :=
  value.fields? fieldNames >>= ofFields?

def members (config : StoresConfig) : List (String × Json) :=
  [("pikpak", Json.ofOption PikPak.Config.toJson config.pikPak),
    ("seedr", Json.ofOption Seedr.Config.toJson config.seedr),
    ("listing_cache_ttl_secs", .integer config.listingLifetime)]

def toJson (config : StoresConfig) : Json := .object config.members

end StoresConfig

/-- The stores that are set up. -/
structure Registry (World : Type) where
  providers : List (Provider World)
  ascending : providers.Pairwise fun first second => first.store.index < second.store.index

namespace Registry

variable {World : Type}

def empty : Registry World := ⟨[], .nil⟩

/-- The store with an identity. -/
def get? (registry : Registry World) (store : Store) : Option (Provider World) :=
  registry.providers.find? fun provider => provider.store = store

def has (registry : Registry World) (store : Store) : Bool :=
  (registry.get? store).isSome

/-- The store with a name or a code. -/
def resolve? (registry : Registry World) (identity : String) : Option (Provider World) := do
  registry.get? (← Store.ofIdentity? identity)

/-- The identities of the stores, in order. -/
def stores (registry : Registry World) : List Store :=
  registry.providers.map Provider.store

/-- Puts a provider where its store belongs. -/
def insertProvider (provider : Provider World) : List (Provider World) → List (Provider World)
  | [] => [provider]
  | first :: rest =>
    if provider.store.index < first.store.index then provider :: first :: rest
    else if provider.store.index = first.store.index then provider :: rest
    else first :: insertProvider provider rest

theorem mem_insertProvider {provider other : Provider World} {providers : List (Provider World)}
    (member : other ∈ insertProvider provider providers) : other = provider ∨ other ∈ providers := by
  induction providers with
  | nil => simpa [insertProvider] using member
  | cons first rest ih =>
    simp only [insertProvider] at member
    split at member
    · simpa using member
    · split at member
      · rcases List.mem_cons.1 member with here | there
        · exact .inl here
        · exact .inr (List.mem_cons_of_mem _ there)
      · rcases List.mem_cons.1 member with here | there
        · exact .inr (here ▸ List.mem_cons_self)
        · exact (ih there).imp id (List.mem_cons_of_mem _)

theorem ascending_insertProvider {provider : Provider World} {providers : List (Provider World)}
    (ascending : providers.Pairwise fun first second => first.store.index < second.store.index) :
    (insertProvider provider providers).Pairwise fun first second =>
      first.store.index < second.store.index := by
  induction providers with
  | nil => exact List.pairwise_singleton _ _
  | cons first rest ih =>
    rw [List.pairwise_cons] at ascending
    simp only [insertProvider]
    split
    · rename_i before
      refine List.pairwise_cons.2 ⟨fun other member => ?_, List.pairwise_cons.2 ascending⟩
      rcases List.mem_cons.1 member with here | there
      · exact here ▸ before
      · exact Nat.lt_trans before (ascending.1 other there)
    · split
      · rename_i same
        exact List.pairwise_cons.2 ⟨fun other member => same ▸ ascending.1 other member, ascending.2⟩
      · rename_i notBefore notSame
        refine List.pairwise_cons.2 ⟨fun other member => ?_, ih ascending.2⟩
        rcases mem_insertProvider member with here | there
        · subst here
          omega
        · exact ascending.1 other there

/-- Adds a store that is not set up yet. -/
def register (registry : Registry World) (provider : Provider World) : Outcome (Registry World) :=
  if registry.has provider.store then
    .error (.alreadyExists ("Store '" ++ provider.store.name ++ "' is already registered"))
  else
    .ok ⟨insertProvider provider registry.providers, ascending_insertProvider registry.ascending⟩

/-- What stores need to run. -/
structure Host (World : Type) where
  network : Http.Network World
  clock : Clock World
  /-- The number of pages that a folder may have. -/
  pageBudget : Nat

/-- The PikPak store of some settings. -/
def pikPakProvider (host : Host World) (config : PikPak.Config) (transport : TransportConfig)
    (lifetime : Duration) : Outcome (Provider World) := do
  let http ← httpClient host.network Store.pikPak.apiTunnel transport
  let client : PikPak.Client World :=
    ⟨http, PikPak.Client.standardDriveBase, PikPak.Client.standardUserBase⟩
  let drive : PikPak.Drive World :=
    { api := client.api, clock := host.clock, apiKey := config.apiKey, policy := config.policy
      listing := ⟨.pikPak, lifetime⟩, availability := Availability.unknown
      pageBudget := host.pageBudget }
  return drive.provider

/-- The Seedr store of some settings. -/
def seedrProvider (host : Host World) (config : Seedr.Config) (transport : TransportConfig)
    (lifetime : Duration) : Outcome (Provider World) := do
  let http ← httpClient host.network Store.seedr.apiTunnel transport
  let client : Seedr.Client World := ⟨http, Seedr.Client.standardBase⟩
  let drive : Seedr.Drive World :=
    { api := client.api, clock := host.clock, apiKey := config.apiKey
      listing := ⟨.seedr, lifetime⟩, pageBudget := host.pageBudget }
  return drive.provider

/-- Sets up every store that has settings. -/
def ofConfig (host : Host World) (config : StoresConfig) (transport : TransportConfig) :
    Outcome (Registry World) := do
  let lifetime := Duration.ofSeconds config.listingLifetime
  let registry ← match config.pikPak with
    | some settings => empty.register (← pikPakProvider host settings transport lifetime)
    | none => pure empty
  match config.seedr with
  | some settings => registry.register (← seedrProvider host settings transport lifetime)
  | none => pure registry

end Registry

end StoreGate
