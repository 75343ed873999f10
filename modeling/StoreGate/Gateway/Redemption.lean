import StoreGate.Gateway.Reply
import StoreGate.Http.Client
import StoreGate.Proxy.Token
import StoreGate.Transport
/-!
# Redeeming proxy links

A link that is reached directly and needs no headers is answered with a redirect. Any other link is
fetched, and what its host answers is passed on with a few of its headers. Nothing is sent unless all
headers of the link can be.
-/

namespace StoreGate.Gateway

/-- The clients that fetch links. They wait for as long as an answer takes. -/
structure Relay (World : Type) where
  direct : Http.Client World
  proxied : Http.Client World

namespace Relay

variable {World : Type}

def ofConfig (network : Http.Network World) (transport : TransportConfig) :
    Outcome (Relay World) := do
  let patient := { transport with timeout := 0 }
  let direct ← httpClient network .direct patient
  let proxied ← httpClient network .proxy patient
  return ⟨direct, proxied⟩

def client (relay : Relay World) : Tunnel → Http.Client World
  | .direct => relay.direct
  | .proxy => relay.proxied

end Relay

/-- Whether a link can be handed to the client as it is. -/
def isRedirected (link : ResolvedLink) : Bool :=
  link.tunnel.getD .direct = .direct && link.headers.isEmpty

/-- Sends the client to an address. -/
def redirect (address : String) : Outcome Http.Response :=
  if Http.isHeaderValue address then .ok (Http.Response.withLength ⟨302, [("location", address)], []⟩)
  else .error (.invalidLink "proxy link target is not a valid location")

/-- The headers of a link as they are sent. The first one that cannot be sent is refused. -/
def sendable : List (String × String) → Outcome Http.Headers
  | [] => .ok []
  | (given, value) :: rest => do
    match Http.headerName? given with
    | none => throw (.invalidLink ("invalid proxy header: " ++ given))
    | some name =>
      if !Http.isHeaderValue value then
        throw (.invalidLink ("invalid value for proxy header: " ++ name))
      return (name, value) :: (← sendable rest)

/-- The request for a link, with the range that the client wants. -/
def draft (link : ResolvedLink) (range : Option String) : Outcome Http.Draft := do
  let headers ← sendable link.headers.entries
  let range := range.toList.map fun value => ("range", value)
  return (headers ++ range).foldl
    (fun draft header => draft.map (Http.Draft.addHeader header.1 header.2))
    (Http.Draft.make "GET" link.link)

/-- The headers of an answer that are passed on. -/
def forwardedNames : List String :=
  ["content-type", "content-length", "content-range", "content-disposition", "accept-ranges",
    "last-modified", "etag"]

/-- An answer as it is passed on. -/
def forward (response : Http.Response) : Http.Response :=
  { response with
    headers := forwardedNames.filterMap fun name => (response.header? name).map (name, ·) }

variable {World : Type}

/-- Fetches a link. -/
def fetch (relay : Relay World) (link : ResolvedLink) (range : Option String) :
    StateM World (Outcome Http.Response) := do
  match draft link range with
  | .error failure => return .error failure
  | .ok draft =>
    match ← (relay.client (link.tunnel.getD .direct)).send draft with
    | .error fault => return .error (.network ("Upstream request failed: " ++ fault.message))
    | .ok (response, _) => return .ok (forward response)

/-- Redeems a token at a time in seconds. -/
def redeem (relay : Relay World) (credentials : Credentials) (now : Nat) (token : String)
    (range : Option String) : StateM World (Outcome Http.Response) := do
  match ProxyToken.resolve now credentials token with
  | .error failure => return .error failure
  | .ok link => if isRedirected link then return redirect link.link else fetch relay link range

end StoreGate.Gateway
