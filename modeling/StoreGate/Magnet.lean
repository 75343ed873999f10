import StoreGate.Base32
import StoreGate.Failure
import StoreGate.Url.Parser
/-!
# Magnet links

A magnet link names content by its info hash. A bare hash is accepted as well, in hexadecimal or in
base32. The canonical link holds the hash in lowercase hexadecimal and, if there is one, the name.
-/

namespace StoreGate

structure Magnet where
  /-- Forty lowercase hexadecimal digits. -/
  hash : String
  name : String
  /-- The canonical link. -/
  link : String
  /-- The link as it was given. -/
  rawLink : String
  deriving DecidableEq, Repr

namespace Magnet

/-- The scheme of magnet links, with its colon. -/
def scheme : String := "magnet:"

/-- What an info hash of a torrent begins with. -/
def topicMark : String := "urn:btih:"

/-- The info hash in its canonical form. Lengths are counted in bytes. -/
def normalizeHash (hash : String) : Outcome String :=
  if hash.utf8ByteSize = 40 ∧ hash.toList.all Hexadecimal.isDigit then
    .ok (String.ofList (hash.toList.map Char.toLower))
  else if hash.utf8ByteSize = 32 then
    match Base32.decode? (hash.toList.map Char.toUpper) with
    | some bytes => .ok (String.ofList (Hexadecimal.encode bytes))
    | none => .error (.invalidInput ("Invalid base32 info hash: " ++ hash))
  else .error (.invalidInput ("Invalid info hash: " ++ hash))

/-- The hash and the name of a query; of several ones the last counts. -/
def ofPairs (pairs : List (String × String)) : Option String × String :=
  pairs.foldl (fun found pair =>
    if pair.1 = "xt" then
      match Text.afterText? topicMark pair.2 with
      | some hash => (some hash, found.2)
      | none => found
    else if pair.1 = "dn" then (found.1, pair.2)
    else found) (none, "")

/-- The canonical link of a hash and a name. -/
def canonical (hash name : String) : String :=
  "magnet:?xt=" ++ topicMark ++ hash ++
    (if name.isEmpty then ""
      else "&dn=" ++ String.ofList (PercentEncoding.encode PercentEncoding.nonAlphanumeric name))

/-- The hash and the name of a magnet link. -/
def readLink (link : String) : Outcome (String × String) :=
  match Url.parse link with
  | .error fault => .error (.invalidInput ("Invalid magnet link: " ++ fault.message))
  | .ok url =>
    match ofPairs (Url.queryPairs (url.query.getD "")) with
    | (some hash, name) => .ok (hash, name)
    | (none, _) => .error (.invalidInput "Magnet link has no btih info hash")

/-- Reads a magnet link or a bare hash, with blanks around it. -/
def parse (input : String) : Outcome Magnet := do
  let input := Text.trim input
  let isLink := (Text.afterText? scheme input).isSome
  let (rawHash, name) ← if isLink then readLink input else pure (input, "")
  let hash ← normalizeHash rawHash
  let link := canonical hash name
  return ⟨hash, name, link, if isLink then input else link⟩

end Magnet

end StoreGate
