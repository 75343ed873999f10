import StoreGate.Action
import StoreGate.Base64Url
import StoreGate.Http.Message
import StoreGate.Json.Parser
import StoreGate.Json.Printer
import StoreGate.Url.Reference
/-!
# HTTP clients

A request is drafted from the text of its address; the first thing wrong with it decides its fault.
A client sends drafts over a network, names itself, and follows a few redirects. The network may
give no answer.
-/

namespace StoreGate.Http

/-- Why a request was not answered, or its answer not understood. -/
inductive Fault where
  /-- The request could not be put together; the address is known in some cases. -/
  | building (url : Option Url)
  | sending (url : Url)
  | redirecting (url : Url)
  | decoding (url : Url)

def Fault.message : Fault → String
  | .building none => "builder error"
  | .building (some url) => "builder error for url (" ++ url.text ++ ")"
  | .sending url => "error sending request for url (" ++ url.text ++ ")"
  | .redirecting url => "error following redirect for url (" ++ url.text ++ ")"
  | .decoding url => "error decoding response body for url (" ++ url.text ++ ")"

/-- A request in the making. -/
abbrev Draft := Except Fault Request

/-- Bytes in base64 with padding, as credentials are sent. -/
def credentialText (bytes : List UInt8) : String :=
  let symbols := (Base64Url.encodeBytes bytes).map fun char =>
    if char = '-' then '+' else if char = '_' then '/' else char
  String.ofList (symbols ++ List.replicate ((4 - symbols.length % 4) % 4) '=')

/-- The credential of a user, as the basic scheme sends it. -/
def basicCredential (user password : String) : String :=
  "Basic " ++ credentialText (Utf8.encode (user ++ ":" ++ password))

namespace Draft

/-- The request with one more header. -/
def addHeader (name value : String) (request : Request) : Request :=
  { request with headers := request.headers ++ [(name, value)] }

/-- Drafts a request to an address. The user information of the address becomes a header. -/
def make (method address : String) : Draft :=
  match Url.parse address with
  | .error _ => .error (.building none)
  | .ok url =>
    if url.host.isNone then .error (.building (some url))
    else
      let bare := { url with username := "", password := none }
      let request : Request := ⟨method, bare, [], []⟩
      if url.username.isEmpty && url.password.isNone then .ok request
      else
        let decoded (text : String) : String := Utf8.decodeLossy (PercentEncoding.decode text)
        .ok (addHeader "authorization"
          (basicCredential (decoded url.username) (decoded (url.password.getD ""))) request)

/-- Adds a header, whose value must be one. -/
def header (draft : Draft) (name value : String) : Draft := do
  let request ← draft
  if isHeaderValue value then return addHeader name value request
  else throw (.building none)

/-- Adds an access token. -/
def bearer (draft : Draft) (token : String) : Draft :=
  draft.header "authorization" ("Bearer " ++ token)

/-- Adds a user with a password. -/
def basic (draft : Draft) (user password : String) : Draft :=
  draft.header "authorization" (basicCredential user password)

/-- Adds pairs to the query. -/
def pairs (draft : Draft) (added : List (String × String)) : Draft :=
  draft.map fun request => { request with url := request.url.withPairs added }

/-- Adds a JSON document as the body. -/
def json (draft : Draft) (value : Json) : Draft :=
  draft.map fun request =>
    { addHeader "content-type" "application/json" request with body := Utf8.encode value.text }

end Draft

/-- Carries a request to its host; there may be no answer. -/
abbrev Network (World : Type) := Request → StateM World (Option Response)

structure Client (World : Type) where
  network : Network World
  /-- How the client names itself. -/
  userAgent : String
  /-- The seconds that an answer may take; zero for any time. -/
  timeout : Nat
  /-- Where requests go instead of to their hosts. -/
  relay : Option Url

/-- How many redirects are followed. -/
def redirectLimit : Nat := 10

/-- The request that a redirect asks for. -/
def redirected? (request : Request) (response : Response) : Option (Except Url.Fault Request) :=
  if [301, 302, 303, 307, 308].contains response.status then
    (response.header? "location").map fun reference =>
      (request.url.follow reference).map fun url =>
        let kept := [307, 308].contains response.status || ["GET", "HEAD"].contains request.method
        let sameHost := url.origin = request.url.origin
        let headers := request.headers.filter fun header =>
          (sameHost || header.1 ≠ "authorization") && (kept || header.1 ≠ "content-type")
        { method := if kept then request.method else "GET", url, headers
          body := if kept then request.body else [] }
  else none

namespace Client

variable {World : Type}

/-- Sends a request and what redirects ask for after it. -/
def sendWithin (client : Client World) :
    (redirects : Nat) → Request → StateM World (Except Fault (Response × Url))
  | redirects, request => do
    match ← client.network request with
    | none => return .error (.sending request.url)
    | some response =>
      match redirected? request response with
      | none | some (.error _) => return .ok (response, request.url)
      | some (.ok next) =>
        match redirects with
        | 0 => return .error (.redirecting request.url)
        | redirects + 1 => sendWithin client redirects next

/-- Sends a draft. Only addresses of the web can be reached. -/
def send (client : Client World) (draft : Draft) :
    StateM World (Except Fault (Response × Url)) := do
  match draft with
  | .error fault => return .error fault
  | .ok request =>
    if request.url.scheme ≠ "http" ∧ request.url.scheme ≠ "https" then
      return .error (.building (some request.url))
    let usual :=
      [("accept", "*/*"), ("user-agent", client.userAgent), ("host", request.url.hostText)]
    let missing := usual.filter fun header => (request.headers.lookup header.1).isNone
    client.sendWithin redirectLimit { request with headers := missing ++ request.headers }

end Client

/-- Sends a draft to the service of a store and reads the answer. What the service answers instead of
the expected document becomes a failure of the store. -/
def call {World α : Type} (client : Client World) (store : Store) (purpose : String)
    (read : Json → Option α) (draft : Draft) : Action World α := do
  match ← client.send draft with
  | .error fault => Action.fail (.network (purpose ++ ": " ++ fault.message))
  | .ok (response, url) =>
    if response.isSuccess then
      match Json.parse? response.body >>= read with
      | some value => return value
      | none =>
        Action.fail
          (.service store ("Failed to parse response: " ++ (Fault.decoding url).message))
    else if response.status = 404 then Action.fail (.notFound "Resource not found")
    else if response.status = 401 ∨ response.status = 403 then
      Action.fail (.service store ("Access denied (" ++ statusText response.status ++ ")"))
    else
      Action.fail (.service store
        ("API error: " ++ statusText response.status ++ " - " ++ Utf8.decodeLossy response.body))

end StoreGate.Http
