import StoreGate.Proxy.Credentials
import StoreGate.Registry
/-!
# The settings of a gateway

One JSON object holds the address under which links are issued, the address to listen on, the users,
and next to them the settings of transports and stores. Everything has a default.
-/

namespace StoreGate

structure GatewayConfig where
  /-- The address that proxy links begin with. -/
  baseUrl : String
  /-- The socket address to listen on. -/
  listen : String
  /-- Who may issue and redeem proxy links. -/
  credentials : Credentials
  transport : TransportConfig
  stores : StoresConfig
  deriving DecidableEq

namespace GatewayConfig

def standardListen : String := "127.0.0.1:8080"

def standardBaseUrl : String := "http://" ++ standardListen

def standard : GatewayConfig :=
  { baseUrl := standardBaseUrl, listen := standardListen, credentials := ⟨TextMap.empty⟩
    transport := TransportConfig.standard, stores := StoresConfig.standard }

/-- The members of the object; those of transports and stores are not nested. -/
def fieldNames : List String :=
  ["base_url", "listen", "proxy_auth"] ++ TransportConfig.fieldNames ++ StoresConfig.fieldNames

def ofFields? (fields : Json.Fields) : Option GatewayConfig := do
  return {
    baseUrl := ← fields.withDefault "base_url" standardBaseUrl Json.text?
    listen := ← fields.withDefault "listen" standardListen Json.text?
    credentials := ← fields.withDefault "proxy_auth" ⟨TextMap.empty⟩ Credentials.ofJson?
    transport := ← TransportConfig.ofFields? fields
    stores := ← StoresConfig.ofFields? fields }

/-- Reads the settings from an object that is readable throughout. -/
def ofJson? (value : Json) : Option GatewayConfig :=
  match value with
  | .object _ => if value.isStorable then value.fields? fieldNames >>= ofFields? else none
  | _ => none

def toJson (config : GatewayConfig) : Json :=
  .object ([("base_url", .string config.baseUrl), ("listen", .string config.listen),
    ("proxy_auth", config.credentials.toJson)] ++ config.transport.members ++ config.stores.members)

/-- Refuses settings with which no link could be issued, or nothing be listened on. -/
def validate (config : GatewayConfig) : Outcome Unit :=
  if config.baseUrl.isEmpty then .error (.invalidInput "base_url must not be empty")
  else if config.listen.isEmpty then .error (.invalidInput "listen must not be empty")
  else .ok ()

/-- Reads the settings from the content of a file. -/
def read (bytes : List UInt8) : Outcome GatewayConfig := do
  if (Utf8.decode? bytes).isNone then
    throw (.inputOutput "stream did not contain valid UTF-8")
  match Json.parse? bytes >>= ofJson? with
  | none => throw .malformedJson
  | some config =>
    config.validate
    return config

end GatewayConfig

end StoreGate
