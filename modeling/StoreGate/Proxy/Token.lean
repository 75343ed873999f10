import StoreGate.Action
import StoreGate.Crypto.SealedBox
import StoreGate.Duration
import StoreGate.Proxy.Credentials
import StoreGate.Proxy.SignedToken
import StoreGate.Tunnel
/-!
# Proxy tokens

A token carries a link, the headers to send when it is redeemed, and the user it was issued for.
There are two forms. An unsigned token holds the user's credential beside the link and is accepted
only while that credential is valid. A signed token names its user, may expire, and may seal the link
so that only the gateway can read it.
-/

namespace StoreGate

/-- What to wrap in a proxy link. -/
structure LinkRequest where
  /-- The address to redirect to or to relay. -/
  link : String
  /-- Headers to send when the link is redeemed. -/
  headers : TextMap
  tunnel : Option Tunnel
  /-- How long the link lives; zero for ever. -/
  lifetime : Duration
  user : String
  /-- The user's secret. -/
  secret : String
  isSealed : Bool
  /-- The last segment of the link; taken from the address when absent. -/
  filename : Option String

/-- What a redeemed link stands for. -/
structure ResolvedLink where
  link : String
  headers : TextMap
  tunnel : Option Tunnel
  /-- The user for whom the link was issued. -/
  user : String
  deriving DecidableEq

def isLineBreak (char : Char) : Bool :=
  char = '\n' || char = '\r'

namespace LinkRequest

/-- Whether the request gives a signed token. -/
def isSigned (request : LinkRequest) : Bool :=
  request.isSealed || !request.lifetime.isZero

/-- Whether a header can stand on a line of its own, and its name is found again. -/
def isValidHeader (header : String × String) : Bool :=
  !header.1.isEmpty && !header.1.toList.any (fun char => char = ':' || isLineBreak char) &&
    !header.2.toList.any isLineBreak

/-- Refuses requests whose token could not be read back. -/
def validate (request : LinkRequest) : Outcome Unit :=
  if request.link.isEmpty || request.link.toList.any isLineBreak then
    .error (.invalidInput "Invalid proxy link target")
  else if request.user.isEmpty || request.user.toList.contains ':' then
    .error (.invalidInput "Invalid proxy link user")
  else
    match request.headers.entries.find? fun header => !isValidHeader header with
    | some header => .error (.invalidInput ("Invalid proxy header: " ++ header.1))
    | none => .ok ()

end LinkRequest

namespace ProxyToken

/-- What an unsigned token begins with. -/
def unsignedMark : String := "base64."

/-- The issuer of signed tokens. -/
def issuer : String := "debridgate"

/-- The name of the format in which a link is readable by everybody. -/
def plainFormat : String := "base64"

/-- What stands between the name of a header and its value. -/
def headerMark : List Char := [':', ' ']

def tunnelMembers (tunnel : Option Tunnel) : List (String × Json) :=
  match tunnel with
  | none => []
  | some tunnel => [("tunt", .string tunnel.name)]

/-- The payload of an unsigned token. -/
structure Payload where
  /-- User and secret, joined by a colon. -/
  credential : String
  link : String
  headers : TextMap
  tunnel : Option Tunnel

namespace Payload

def toJson (payload : Payload) : Json :=
  .object ([("u", .string payload.credential), ("v", .string payload.link)] ++
    (if payload.headers.isEmpty then [] else [("reqh", Json.ofTextMap payload.headers)])
    ++ tunnelMembers payload.tunnel)

def ofJson? (value : Json) : Option Payload := do
  let fields ← value.fields? ["u", "v", "reqh", "tunt"]
  return {
    credential := ← fields.required "u" Json.text?
    link := ← fields.required "v" Json.text?
    headers := ← fields.withDefault "reqh" TextMap.empty Json.textMap?
    tunnel := ← fields.optional "tunt" Tunnel.ofJson? }

end Payload

/-- What a signed token says about its link. -/
structure LinkData where
  /-- The link with its headers, as the format writes them. -/
  link : String
  format : String
  tunnel : Option Tunnel

/-- The claims of a signed token. -/
structure Claims where
  issuer : String
  subject : String
  /-- The second in which the token is no longer valid. -/
  expiry : Option Nat
  data : LinkData

namespace Claims

def toJson (claims : Claims) : Json :=
  .object ([("iss", .string claims.issuer), ("sub", .string claims.subject)] ++
    (match claims.expiry with
      | none => []
      | some second => [("exp", .integer second)]) ++
    [("data", .object ([("enc_link", .string claims.data.link),
      ("enc_format", .string claims.data.format)] ++ tunnelMembers claims.data.tunnel))])

def readData? (value : Json) : Option LinkData := do
  let fields ← value.fields? ["enc_link", "enc_format", "tunt"]
  return {
    link := ← fields.required "enc_link" Json.text?
    format := ← fields.required "enc_format" Json.text?
    tunnel := ← fields.optional "tunt" Tunnel.ofJson? }

def ofJson? (value : Json) : Option Claims := do
  let fields ← value.fields? ["iss", "sub", "exp", "data"]
  return {
    issuer := ← fields.required "iss" Json.text?
    subject := ← fields.required "sub" Json.text?
    expiry := ← fields.optional "exp" (Json.natural? 64)
    data := ← fields.required "data" readData? }

end Claims

/-- The link and its headers, one to a line. -/
def linkLines (link : String) (headers : TextMap) : List Char :=
  link.toList ++ headers.entries.flatMap fun header =>
    '\n' :: (header.1.toList ++ headerMark ++ header.2.toList)

/-- Reads headers from lines. -/
def readHeaders : List (List Char) → Option (List (String × String))
  | [] => some []
  | line :: rest => do
    let (name, value) ← Text.splitAtMark? headerMark line
    return (String.ofList name, String.ofList value) :: (← readHeaders rest)

/-- The second in which a token issued now expires. -/
def expiry (now : Nat) (lifetime : Duration) : Option Nat :=
  if lifetime.isZero then none else some (now + max 1 lifetime.seconds)

/-- Whether 64 bits can count the seconds until a token issued now expires. -/
def isCountable (now : Nat) (lifetime : Duration) : Bool :=
  (expiry now lifetime).all (· < bitLimit 64)

/-- The token for a request, at a time in seconds. -/
def create (now : Nat) (nonce : Nonce) (request : LinkRequest) : Except Halt String := do
  Action.resultOf request.validate
  if !request.isSigned then
    let payload : Payload :=
      ⟨request.user ++ ":" ++ request.secret, request.link, request.headers, request.tunnel⟩
    return unsignedMark ++ Base64Url.encode (Utf8.encode payload.toJson.text)
  let lines := String.ofList (linkLines request.link request.headers)
  let data : LinkData :=
    if request.isSealed then
      ⟨SealedBox.sealText request.secret nonce lines, SealedBox.format, request.tunnel⟩
    else ⟨Base64Url.encode (Utf8.encode lines), plainFormat, request.tunnel⟩
  if !isCountable now request.lifetime then throw .overflow
  let claims : Claims := ⟨issuer, request.user, expiry now request.lifetime, data⟩
  return SignedToken.sign request.secret claims.toJson

def malformed : Failure :=
  .invalidLink "malformed proxy token"

/-- A value that must be there, or a failure. -/
def orFail {α : Type} (failure : Failure) : Option α → Outcome α
  | some value => .ok value
  | none => .error failure

/-- Redeems what follows the mark of an unsigned token. -/
def resolveUnsigned (credentials : Credentials) (encoded : String) : Outcome ResolvedLink := do
  let bytes ← orFail malformed (Base64Url.decode? encoded)
  let payload ← orFail malformed (Json.parse? bytes >>= Payload.ofJson?)
  let (user, secret) ← orFail (.invalidLink "proxy token has no credential")
    (Text.splitTextAt? ':' payload.credential)
  if !credentials.verify user secret then
    throw (.unauthorized "invalid proxy credential")
  return ⟨payload.link, payload.headers, payload.tunnel, user⟩

/-- The user that a token names, before anything about it is checked. -/
def subject? (token : SignedToken.Parts) : Option String := do
  let bytes ← Base64Url.decodeSymbols token.claims
  let fields ← (← Json.parse? bytes).fields? ["sub"]
  fields.required "sub" Json.text?

/-- The link with its headers as the token's format writes them. -/
def openData (secret : String) (data : LinkData) : Outcome String :=
  if data.format = SealedBox.format then SealedBox.openText secret data.link
  else if data.format = plainFormat then
    (decodeBase64Text data.link).mapError fun _ => .invalidLink "malformed proxy link blob"
  else .error (.invalidLink ("unsupported proxy link format: " ++ data.format))

/-- Redeems a signed token at a time in seconds. -/
def resolveSigned (now : Nat) (credentials : Credentials) (token : String) :
    Outcome ResolvedLink := do
  let parts ← orFail malformed (SignedToken.parts? token)
  let user ← orFail malformed (subject? parts)
  let secret ← orFail (.unauthorized ("unknown proxy user: " ++ user)) (credentials.secret? user)
  let claims ← (SignedToken.verify Claims.ofJson? issuer secret now parts).mapError fun fault =>
    .unauthorized ("invalid proxy token: " ++ fault.message)
  if claims.expiry.any (· ≤ now) then throw (.unauthorized "proxy token expired")
  let lines ← openData secret claims.data
  match Text.fields '\n' lines.toList with
  | [] => throw (.invalidLink "proxy token has no link")
  | link :: rest =>
    let headers ← orFail (.invalidLink "malformed proxy link header") (readHeaders rest)
    if link.isEmpty then throw (.invalidLink "proxy token has no link")
    return ⟨String.ofList link, TextMap.ofList headers, claims.data.tunnel, user⟩

/-- Redeems a token at a time in seconds. -/
def resolve (now : Nat) (credentials : Credentials) (token : String) : Outcome ResolvedLink :=
  match Text.afterText? unsignedMark token with
  | some encoded => resolveUnsigned credentials encoded
  | none => resolveSigned now credentials token

end ProxyToken

end StoreGate
