import StoreGate.Failure
import StoreGate.Json.Reader
/-!
# How traffic is routed

Traffic to a store goes directly or through the gateway's proxy. Debrid services accept traffic
from few addresses only, so both calls and streams are relayed; drives are reached directly.
-/

namespace StoreGate

inductive Tunnel where
  | direct
  | proxy
  deriving DecidableEq, Inhabited, Repr

namespace Tunnel

def name : Tunnel → String
  | .direct => "direct"
  | .proxy => "proxy"

def choices : List (String × Tunnel) :=
  [("direct", .direct), ("proxy", .proxy)]

def ofName (name : String) : Outcome Tunnel :=
  match choices.lookup name with
  | some tunnel => .ok tunnel
  | none => .error (.invalidInput ("Unknown tunnel type: " ++ name))

def toJson (tunnel : Tunnel) : Json := .string tunnel.name

def ofJson? : Json → Option Tunnel := Json.choice? choices

end Tunnel

namespace Store

def toJson (store : Store) : Json := .string store.name

/-- Reads the name of a store. -/
def ofJson? : Json → Option Store := Json.choice? (all.map fun store => (store.name, store))

/-- The store with the given name or code, as callers ask for it. -/
def ofIdentity (identity : String) : Outcome Store :=
  match ofIdentity? identity with
  | some store => .ok store
  | none => .error (.invalidInput ("Unknown store: " ++ identity))

/-- The routing of calls to the service. -/
def apiTunnel : Store → Tunnel
  | .pikPak | .seedr => .direct
  | _ => .proxy

/-- The routing of streams handed to players. -/
def streamTunnel : Store → Tunnel
  | .pikPak | .seedr => .direct
  | _ => .proxy

end Store

namespace Tunnel

/-- The routing of calls to the store with a name or code; unknown stores are reached directly. -/
def forApi (identity : String) : Tunnel :=
  ((Store.ofIdentity? identity).map Store.apiTunnel).getD .direct

/-- The routing of streams of the store with a name or code; unknown stores are reached directly. -/
def forStream (identity : String) : Tunnel :=
  ((Store.ofIdentity? identity).map Store.streamTunnel).getD .direct

end Tunnel

end StoreGate
