import StoreGate.Gateway.Config
import StoreGate.Gateway.Redemption
import StoreGate.Gateway.Route
/-!
# The gateway

The gateway answers which stores it serves, and redeems proxy links.
-/

namespace StoreGate

structure Gateway (World : Type) where
  registry : Registry World
  credentials : Credentials
  relay : Gateway.Relay World

namespace Gateway

variable {World : Type}

/-- The gateway of some settings. -/
def ofConfig (host : Registry.Host World) (config : GatewayConfig) : Outcome (Gateway World) := do
  let registry ← Registry.ofConfig host config.stores config.transport
  let relay ← Relay.ofConfig host.network config.transport
  return ⟨registry, config.credentials, relay⟩

/-- What a client asks for. -/
structure Request where
  method : String
  /-- The path, and a query that is ignored. -/
  target : String
  headers : Http.Headers

/-- The part of a file that a client wants. -/
def Request.range (request : Request) : Option String :=
  (request.headers.find? fun header => header.1.toLower = "range").map (·.2)

/-- The methods that all routes have. -/
def methods : List String := ["GET", "HEAD"]

/-- That the gateway is well, and which stores it serves. -/
def healthReport (gateway : Gateway World) : Json :=
  .object [("status", .string "ok"),
    ("stores", Json.ofStrings (gateway.registry.stores.map Store.name))]

/-- Answers a request for a route. -/
def answerRoute (gateway : Gateway World) (now : Nat) (range : Option String) :
    Route → StateM World Http.Response
  | .health => return (Http.Response.ofJson 200 gateway.healthReport).withLength
  | .link token filename => do
    match decodeLink token filename with
    | .error fault => return (Http.Response.ofText 400 fault).withLength
    | .ok token =>
      match ← redeem gateway.relay gateway.credentials now token range with
      | .error failure => return failure.response.withLength
      | .ok response => return response

/-- Answers a request at a time in seconds. -/
def answer (gateway : Gateway World) (now : Nat) (request : Request) :
    StateM World Http.Response := do
  match Route.ofTarget? request.target with
  | none => return ⟨404, [], []⟩
  | some route =>
    if !methods.contains request.method then
      return Http.Response.withLength ⟨405, [("allow", ",".intercalate methods)], []⟩
    let response ← gateway.answerRoute now request.range route
    return if request.method = "HEAD" then { response with body := [] } else response

end Gateway

end StoreGate
