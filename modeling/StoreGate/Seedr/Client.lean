import StoreGate.Http.Client
import StoreGate.Seedr.Api
import StoreGate.Text.Split
/-!
# Calling Seedr

The service over HTTP. A credential is an address and a password, joined by a colon.
-/

namespace StoreGate.Seedr

/-- The address and the password of a credential. -/
def splitCredential (key : String) : Outcome (String × String) :=
  match Text.splitTextAt? ':' key with
  | some (email, password) =>
    if email.isEmpty then .error (.invalidInput "Seedr credential must be email:password")
    else .ok (email, password)
  | none => .error (.invalidInput "Seedr credential must be email:password")

/-- A client with the address of the service. -/
structure Client (World : Type) where
  http : Http.Client World
  base : String

namespace Client

def standardBase : String := "https://www.seedr.cc/rest"

variable {World α : Type}

/-- Reads a document of the service. -/
def get (client : Client World) (key path : String) (read : Json → Option α) :
    Action World α := do
  let (email, password) ← Action.ofOutcome (splitCredential key)
  Http.call client.http .seedr ("Failed to get " ++ path) read
    ((Http.Draft.make "GET" (client.base ++ path)).basic email password)

def account (client : Client World) (key : String) : Action World Account := do
  let settings ← client.get key "/settings" Settings.ofJson?
  if settings.succeeded then return settings.account
  else Action.fail (.service .seedr "settings request failed")

/-- The service behind a client. -/
def api (client : Client World) : Api World :=
  { root := fun key => client.get key "/folder" Contents.ofJson?
    folder := fun key id => client.get key ("/folder/" ++ toString id) Contents.ofJson?
    file := fun key id => client.get key ("/file/" ++ toString id) Download.ofJson?
    account := client.account }

end Client

end StoreGate.Seedr
