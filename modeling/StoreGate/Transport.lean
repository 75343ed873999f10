import StoreGate.Http.Client
import StoreGate.Json.Reader
import StoreGate.Tunnel
/-!
# Transports

The settings of all HTTP clients, and the client for a way of routing. Only relayed traffic uses the
forward proxy, and without one it goes directly.
-/

namespace StoreGate

structure TransportConfig where
  /-- The forward proxy of relayed traffic. -/
  proxyUrl : Option String
  userAgent : String
  /-- The seconds that an answer may take; zero for any time. -/
  timeout : Nat
  deriving DecidableEq, Repr

namespace TransportConfig

/-- How clients name themselves by default. -/
def standardUserAgent : String := "debridgate/0.1"

def standardTimeout : Nat := 30

def standard : TransportConfig := ⟨none, standardUserAgent, standardTimeout⟩

def fieldNames : List String := ["tunnel_proxy_url", "user_agent", "timeout_secs"]

def ofFields? (fields : Json.Fields) : Option TransportConfig := do
  return {
    proxyUrl := ← fields.optional "tunnel_proxy_url" Json.text?
    userAgent := ← fields.withDefault "user_agent" standardUserAgent Json.text?
    timeout := ← fields.withDefault "timeout_secs" standardTimeout (Json.natural? 64) }

def ofJson? (value : Json) : Option TransportConfig :=
  value.fields? fieldNames >>= ofFields?

def members (config : TransportConfig) : List (String × Json) :=
  [("tunnel_proxy_url", Json.ofOption .string config.proxyUrl),
    ("user_agent", .string config.userAgent), ("timeout_secs", .integer config.timeout)]

def toJson (config : TransportConfig) : Json := .object config.members

end TransportConfig

/-- The address of a forward proxy; a scheme may be missing. -/
def relayUrl? (text : String) : Option Url :=
  let withHost (result : Except Url.Fault Url) : Option Url :=
    result.toOption.filter (·.host.isSome)
  match Url.parse text with
  | .ok url => if url.host.isSome then some url else withHost (Url.parse ("http://" ++ text))
  | .error .relative => withHost (Url.parse ("http://" ++ text))
  | .error _ => none

/-- The client for a way of routing. -/
def httpClient {World : Type} (network : Http.Network World) (tunnel : Tunnel)
    (config : TransportConfig) : Outcome (Http.Client World) := do
  let relay ← match tunnel, config.proxyUrl with
    | .proxy, some text =>
      match relayUrl? text with
      | some url => pure (some url)
      | none => throw (.invalidInput "Invalid tunnel proxy url: builder error")
    | _, _ => pure none
  if !Http.isHeaderValue config.userAgent then
    throw (.network "Failed to create HTTP client: builder error")
  return ⟨network, config.userAgent, config.timeout, relay⟩

end StoreGate
