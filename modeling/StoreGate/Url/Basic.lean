import StoreGate.Hexadecimal
import StoreGate.PercentEncoding
import StoreGate.Text.Split
/-!
# URLs

The parts of a URL as the URL Standard divides it, and the text that they give. A path is a list of
segments, or opaque where the scheme is followed by no slash.
-/

namespace StoreGate

namespace Url

/-- Why a text is no URL. -/
inductive Fault where
  | emptyHost
  | domainName
  | portNumber
  | ipv4
  | ipv6
  | domainCharacter
  | relative
  deriving DecidableEq, Repr

def Fault.message : Fault → String
  | .emptyHost => "empty host"
  | .domainName => "invalid international domain name"
  | .portNumber => "invalid port number"
  | .ipv4 => "invalid IPv4 address"
  | .ipv6 => "invalid IPv6 address"
  | .domainCharacter => "invalid domain character"
  | .relative => "relative URL without a base"

inductive Host where
  | domain (name : String)
  | ipv4 (address : Nat)
  /-- Eight numbers of sixteen bits. -/
  | ipv6 (pieces : List Nat)
  deriving DecidableEq, Repr

inductive Path where
  | opaqueText (text : String)
  | segments (list : List String)
  deriving DecidableEq, Repr

end Url

structure Url where
  scheme : String
  username : String
  password : Option String
  /-- Whether two slashes announce a host, which may be absent all the same. -/
  hasAuthority : Bool
  host : Option Url.Host
  portNumber : Option Nat
  path : Url.Path
  query : Option String
  fragment : Option String
  deriving DecidableEq, Repr

namespace Url

/-- The number that a scheme of the web uses when none is given. -/
def defaultPort? (scheme : String) : Option Nat :=
  [("http", 80), ("https", 443), ("ws", 80), ("wss", 443), ("ftp", 21)].lookup scheme

/-- Whether the scheme is one whose URLs always have a host. -/
def isSpecial (scheme : String) : Bool :=
  (defaultPort? scheme).isSome

/-- The longest run of at least two zeros, as its place and its length. -/
def longestZeros (pieces : List Nat) : Nat × Nat :=
  let run (start : Nat) : Nat := ((pieces.drop start).takeWhile (· = 0)).length
  (List.range pieces.length).foldl
    (fun best start => if best.2 < run start then (start, run start) else best) (0, 1)

def hexNumber (value : Nat) : List Char := Nat.toDigits 16 value

/-- An IPv6 address with its longest run of zeros left out. -/
def ipv6Text (pieces : List Nat) : List Char :=
  let (start, length) := longestZeros pieces
  let write (part : List Nat) : List Char := Text.join [':'] (part.map hexNumber)
  if length < 2 then write pieces
  else write (pieces.take start) ++ [':', ':'] ++ write (pieces.drop (start + length))

namespace Host

def text : Host → String
  | .domain name => name
  | .ipv4 address =>
    String.ofList (Text.join ['.'] ([16777216, 65536, 256, 1].map fun unit =>
      Nat.toDigits 10 (address / unit % 256)))
  | .ipv6 pieces => String.ofList ('[' :: (ipv6Text pieces ++ [']']))

end Host

namespace Path

def text : Path → String
  | .opaqueText text => text
  | .segments list => String.join (list.map fun segment => "/" ++ segment)

end Path

/-- The user name and the password in front of the host. -/
def userInfoText (url : Url) : String :=
  match url.username, url.password with
  | "", none => ""
  | username, none => username ++ "@"
  | username, some password => username ++ ":" ++ password ++ "@"

/-- The host and its number, as a request names them. -/
def hostText (url : Url) : String :=
  ((url.host.map Host.text).getD "") ++
    ((url.portNumber.map fun number => ":" ++ toString number).getD "")

/-- The path with the query, as a request names them. -/
def target (url : Url) : String :=
  url.path.text ++ ((url.query.map ("?" ++ ·)).getD "")

def text (url : Url) : String :=
  let authority :=
    if url.hasAuthority then "//" ++ url.userInfoText ++ url.hostText
    else
      match url.path with
      | .segments ("" :: _ :: _) => "/."
      | _ => ""
  url.scheme ++ ":" ++ authority ++ url.target ++ ((url.fragment.map ("#" ++ ·)).getD "")

/-- The segments of a path that begins with a slash. -/
def pathSegments? (url : Url) : Option (List String) :=
  match url.path with
  | .opaqueText _ | .segments [] => none
  | .segments list => some list

end Url

end StoreGate
