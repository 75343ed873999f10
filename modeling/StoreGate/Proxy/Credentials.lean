import StoreGate.Json.Reader
import StoreGate.Text.Quoted
import StoreGate.Text.Split
/-!
# Proxy credentials

The users who may issue and redeem proxy links, with their secrets. The secret of a user signs that
user's tokens and seals their links.
-/

namespace StoreGate

structure Credentials where
  users : TextMap
  deriving DecidableEq, Inhabited

namespace Credentials

/-- The user and the secret of an entry such as `user:secret`. An entry without a colon, or with an
empty user, is no credential. -/
def pair? (entry : String) : Option (String × String) :=
  match Text.splitTextAt? ':' entry with
  | some (user, secret) => if user.isEmpty then none else some (user, secret)
  | none => none

/-- The credentials of a list of entries; what is no credential is left out. -/
def ofEntries (entries : List String) : Credentials :=
  ⟨TextMap.ofList (entries.filterMap pair?)⟩

/-- The secret of a user. -/
def secret? (credentials : Credentials) (user : String) : Option String :=
  credentials.users.get? user

/-- Whether a user has exactly the given secret. -/
def verify (credentials : Credentials) (user secret : String) : Bool :=
  credentials.secret? user == some secret

theorem verify_iff (credentials : Credentials) (user secret : String) :
    credentials.verify user secret = true ↔ credentials.secret? user = some secret := by
  simp [verify]

/-- The users in order. -/
def names (credentials : Credentials) : List String :=
  credentials.users.keys

def isEmpty (credentials : Credentials) : Bool :=
  credentials.users.isEmpty

/-- A description for people, which shows the users and none of the secrets. -/
def describe (credentials : Credentials) : String :=
  "ProxyAuth \x7b users: [" ++
    String.ofList (Text.join [',', ' '] (credentials.names.map Text.quoted)) ++ "] \x7d"

def toJson (credentials : Credentials) : Json :=
  Json.ofTextMap credentials.users

def ofJson? (value : Json) : Option Credentials :=
  value.textMap?.map Credentials.mk

end Credentials

end StoreGate
