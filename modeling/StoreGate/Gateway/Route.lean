import StoreGate.PercentEncoding
import StoreGate.Text.Split
import StoreGate.Text.Utf8
/-!
# Routes of the gateway

What the target of a request asks for. The path is split at its slashes before its segments are
decoded, so that an encoded slash stays inside its segment.
-/

namespace StoreGate.Gateway

inductive Route where
  | health
  /-- A proxy link: its token, still encoded, and the file name after it. -/
  | link (token : String) (filename : Option String)
  deriving DecidableEq, Repr

/-- The path of a target: what stands before the query and the fragment. -/
def pathOf (target : String) : List Char :=
  target.toList.takeWhile fun char => char ≠ '?' && char ≠ '#'

namespace Route

/-- The route of the segments of a path. The last segment is never empty. -/
def ofSegments? : List String → Option Route
  | ["", "health"] => some .health
  | ["", "v0", "proxy", token] => if token.isEmpty then none else some (.link token none)
  | ["", "v0", "proxy", token, filename] =>
    if filename.isEmpty then none else some (.link token (some filename))
  | _ => none

def ofTarget? (target : String) : Option Route :=
  ofSegments? ((Text.fields '/' (pathOf target)).map String.ofList)

end Route

/-- A decoded segment, or what is wrong with it. -/
def decodeSegment (purpose segment : String) : Except String String :=
  match Utf8.decode? (PercentEncoding.decode segment) with
  | some text => .ok text
  | none => .error ("Invalid URL: Invalid UTF-8 in \x60" ++ purpose ++ "\x60")

/-- The token of a link; its file name must be text as well. -/
def decodeLink (token : String) (filename : Option String) : Except String String := do
  let token ← decodeSegment "token" token
  if let some name := filename then
    let _ ← decodeSegment "filename" name
  return token

end StoreGate.Gateway
