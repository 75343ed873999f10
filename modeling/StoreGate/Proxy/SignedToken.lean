import StoreGate.Base64Url
import StoreGate.Crypto.Sha256
import StoreGate.Json.Parser
import StoreGate.Json.Printer
import StoreGate.Json.Reader
import StoreGate.Text.Split
/-!
# Signed tokens

A JSON web token (RFC 7519) signed with HMAC-SHA256: header, claims and signature, each in base64,
joined by dots. A token is accepted only if its header names this algorithm, its signature is the
one that the secret gives, and its claims name the expected issuer, have not expired, and are
addressed to no audience in particular.
-/

namespace StoreGate.SignedToken

/-- Why a token is refused. -/
inductive Fault where
  | base64 (fault : Base64Url.Fault)
  | json
  | invalidToken
  | invalidAlgorithm
  | invalidSignature
  | invalidClaim (claim : String)
  | expiredSignature
  | invalidIssuer
  | invalidAudience
  deriving Repr, DecidableEq

def Fault.message : Fault → String
  | .base64 fault => "Base64 error: " ++ fault.message
  | .json => "JSON error"
  | .invalidToken => "InvalidToken"
  | .invalidAlgorithm => "InvalidAlgorithm"
  | .invalidSignature => "InvalidSignature"
  | .invalidClaim claim => "Invalid format for claim: " ++ claim
  | .expiredSignature => "ExpiredSignature"
  | .invalidIssuer => "InvalidIssuer"
  | .invalidAudience => "InvalidAudience"

/-- The algorithm that this library signs with. -/
def algorithm : String := "HS256"

/-- All algorithms that a header may name. -/
def algorithms : List String :=
  ["HS256", "HS384", "HS512", "ES256", "ES384", "RS256", "RS384", "RS512", "PS256", "PS384",
    "PS512", "EdDSA"]

/-- The three parts of a token. -/
structure Parts where
  header : List Char
  claims : List Char
  signature : List Char

/-- Splits a token at its dots, of which there are exactly two. -/
def parts? (token : String) : Option Parts :=
  match Text.fields '.' token.toList with
  | [header, claims, signature] => some ⟨header, claims, signature⟩
  | _ => none

/-- The bytes that are signed. -/
def signedBytes (header claims : List Char) : List UInt8 :=
  Utf8.encode (String.ofList (header ++ '.' :: claims))

def headerJson : Json :=
  .object [("typ", .string "JWT"), ("alg", .string algorithm)]

/-- The bytes of a value's compact form. -/
def documentBytes (value : Json) : List UInt8 :=
  Utf8.encode value.text

/-- Signs claims under a secret. -/
def sign (secret : String) (claims : Json) : String :=
  let header := Base64Url.encodeBytes (documentBytes headerJson)
  let body := Base64Url.encodeBytes (documentBytes claims)
  let signature :=
    Base64Url.encodeBytes (Crypto.Sha256.authenticate (Utf8.encode secret) (signedBytes header body))
  String.ofList (header ++ '.' :: (body ++ '.' :: signature))

/-- Fields of a header that hold text. -/
def headerTexts : List String :=
  ["typ", "cty", "jku", "kid", "x5u", "x5t", "x5t#S256", "enc", "zip", "url", "nonce"]

/-- Fields of a header that hold lists of texts. -/
def headerLists : List String := ["x5c", "crit"]

/-- Whether a value describes a key of some kind. -/
def isKey (value : Json) : Bool :=
  match value with
  | .object members =>
    let has (name : String) : Bool :=
      match members.lookup name with
      | some (.string _) => true
      | _ => false
    match members.lookup "kty" with
    | some (.string "EC") => has "crv" && has "x" && has "y"
    | some (.string "RSA") => has "n" && has "e"
    | some (.string "oct") => has "k"
    | some (.string "OKP") => has "crv" && has "x"
    | _ => false
  | _ => false

/-- The algorithm that a header names. Fields without a meaning of their own must hold text. -/
def headerAlgorithm? (header : Json) : Option String := do
  match header with
  | .object members =>
    let known := "alg" :: "jwk" :: (headerTexts ++ headerLists)
    let fields ← header.fields? known
    let algorithm ← fields.required "alg" (Json.choice? (algorithms.map fun name => (name, name)))
    let _ ← headerTexts.mapM fun name => fields.optional name Json.text?
    let _ ← headerLists.mapM fun name => fields.optional name (Json.list? Json.text?)
    let _ ← fields.optional "jwk" fun value => if isKey value then some () else none
    let others := members.filter fun member => !known.contains member.1
    let _ ← others.mapM fun member => member.2.text?
    return algorithm
  | _ => none

def decodePart (part : List Char) : Except Fault (List UInt8) :=
  (Base64Url.decode (String.ofList part)).mapError .base64

def orJsonFault {α : Type} : Option α → Except Fault α
  | some value => .ok value
  | none => .error .json

/-- Whether a value is an audience: one text or a list of texts. -/
def isAudience (value : Json) : Bool :=
  match value with
  | .string _ => true
  | .array items => items.all fun item => item.text?.isSome
  | _ => false

/-- Whether a claim that is only looked at if it is a number can be passed over. -/
def isPassable (value : Json) : Bool :=
  match value with
  | .array items => items.isEmpty
  | .object members => members.isEmpty
  | .unreadable => false
  | _ => true

/-- Claims that are looked at whatever else a token carries. -/
def registeredClaims : List String := ["exp", "nbf", "sub", "iss", "aud"]

/-- Checks the claims that every token has in common, at a time in seconds. -/
def checkClaims (now : Nat) (issuer : String) (claims : Json) : Except Fault Unit := do
  let fields ← orJsonFault (claims.fields? registeredClaims)
  let claim (name : String) : Json := (fields.given.lookup name).getD .null
  if !isPassable (claim "nbf") || !(claim "aud").isStorable then throw .json
  match fields.given.lookup "exp" with
  | none => pure ()
  | some (.integer value) => if value < now then throw .expiredSignature
  | some _ => throw (.invalidClaim "exp")
  if (claim "iss").text? != some issuer then throw .invalidIssuer
  if isAudience (claim "aud") then throw .invalidAudience

/-- Checks a token against a secret and reads its claims. -/
def verify {α : Type} (read : Json → Option α) (issuer secret : String) (now : Nat)
    (token : Parts) : Except Fault α := do
  let header ← decodePart token.header
  let named ← orJsonFault (Json.parse? header >>= headerAlgorithm?)
  if named ≠ algorithm then throw .invalidAlgorithm
  let signature ← decodePart token.signature
  let expected := Crypto.Sha256.authenticate (Utf8.encode secret)
    (signedBytes token.header token.claims)
  if signature ≠ expected then throw .invalidSignature
  let document ← orJsonFault (Json.parse? (← decodePart token.claims))
  let value ← orJsonFault (read document)
  checkClaims now issuer document
  return value

end StoreGate.SignedToken
