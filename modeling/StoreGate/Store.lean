/-!
# The stores

A store is a service that keeps downloads for its users. Each one has a name and a code of two
letters; both are stable, and either of them identifies it.
-/

namespace StoreGate

inductive Store where
  | allDebrid
  | debrider
  | debridLink
  | easyDebrid
  | offcloud
  | pikPak
  | premiumize
  | realDebrid
  | seedr
  | torBox
  deriving DecidableEq, Inhabited, Repr

namespace Store

/-- All stores, in the order in which they are listed. -/
def all : List Store :=
  [.allDebrid, .debrider, .debridLink, .easyDebrid, .offcloud, .pikPak, .premiumize, .realDebrid,
    .seedr, .torBox]

def name : Store → String
  | .allDebrid => "alldebrid"
  | .debrider => "debrider"
  | .debridLink => "debridlink"
  | .easyDebrid => "easydebrid"
  | .offcloud => "offcloud"
  | .pikPak => "pikpak"
  | .premiumize => "premiumize"
  | .realDebrid => "realdebrid"
  | .seedr => "seedr"
  | .torBox => "torbox"

/-- The code of two letters. -/
def code : Store → String
  | .allDebrid => "ad"
  | .debrider => "dr"
  | .debridLink => "dl"
  | .easyDebrid => "ed"
  | .offcloud => "oc"
  | .pikPak => "pp"
  | .premiumize => "pm"
  | .realDebrid => "rd"
  | .seedr => "sd"
  | .torBox => "tb"

def ofName? (name : String) : Option Store :=
  all.find? (·.name = name)

def ofCode? (code : String) : Option Store :=
  all.find? (·.code = code)

/-- The store with the given name or code. -/
def ofIdentity? (identity : String) : Option Store :=
  ofName? identity <|> ofCode? identity

/-- The place of the store among all stores. -/
def index (store : Store) : Nat :=
  all.idxOf store

theorem ofName?_name (store : Store) : ofName? store.name = some store := by
  cases store <;> decide

theorem ofCode?_code (store : Store) : ofCode? store.code = some store := by
  cases store <;> decide

end Store

end StoreGate
