import StoreGate.Text.Blank
import StoreGate.Url.Host
/-!
# Reading URLs

The parser of the URL Standard for texts that stand alone. Tabs and line ends are dropped wherever
they stand, backslashes count as slashes in schemes of the web, and dot segments are resolved while
the path is read. In every scheme a segment that names a drive stays, whatever dots follow it.
-/

namespace StoreGate.Url

/-- A text as the parser sees it: trimmed, and without tabs and line ends. -/
def readable (text : String) : List Char :=
  let isEdge (char : Char) : Bool := char.toNat ≤ 0x20
  let trimmed := ((text.toList.dropWhile isEdge).reverse.dropWhile isEdge).reverse
  trimmed.filter fun char => char ≠ '\t' && char ≠ '\n' && char ≠ '\r'

def isSchemeChar (char : Char) : Bool :=
  char.isAlphanum || char = '+' || char = '-' || char = '.'

/-- The scheme in front of a colon, in lower case, and what follows it. -/
def scheme? (text : List Char) : Option (String × List Char) :=
  match text with
  | [] => none
  | first :: _ =>
    if first.isAlpha then
      match text.dropWhile isSchemeChar with
      | ':' :: rest =>
        some (String.ofList ((text.takeWhile isSchemeChar).map Char.toLower), rest)
      | _ => none
    else none

def isSlash (special : Bool) (char : Char) : Bool :=
  char = '/' || (special && char = '\\')

/-- Whether a character ends the part of a URL that names its host. -/
def endsAuthority (special : Bool) (char : Char) : Bool :=
  isSlash special char || char = '?' || char = '#'

def encodeChars (escaped : PercentEncoding.EscapeSet) (text : List Char) : String :=
  String.ofList (PercentEncoding.encode escaped (String.ofList text))

/-- User name and password, of which the part before the first colon is the name. -/
def readUserInfo (text : List Char) : String × Option String :=
  match Text.splitAt? ':' text with
  | none => (encodeChars PercentEncoding.userInfo text, none)
  | some (username, password) =>
    (encodeChars PercentEncoding.userInfo username,
      if password.isEmpty then none else some (encodeChars PercentEncoding.userInfo password))

/-- Divides the authority at its last at sign. -/
def splitUserInfo? (authority : List Char) : Option (List Char × List Char) :=
  (Text.splitAt? '@' authority.reverse).map fun sides => (sides.2.reverse, sides.1.reverse)

/-- The host and what follows it; a colon in brackets does not end it. -/
def spanHost : (inBrackets : Bool) → List Char → List Char × List Char
  | _, [] => ([], [])
  | inBrackets, char :: rest =>
    if char = ':' && !inBrackets then ([], char :: rest)
    else
      let inside := if char = '[' then true else if char = ']' then false else inBrackets
      let (host, rest) := spanHost inside rest
      (char :: host, rest)

/-- Reads the number after a host, and gives what follows it, which can only be text behind a
backslash. The default of the scheme is left out. -/
def readPort (scheme : String) (text : List Char) : Except Fault (Option Nat × List Char) :=
  let digits := text.takeWhile Char.isDigit
  let rest := text.dropWhile Char.isDigit
  if rest.head?.any (· ≠ '\\') then
    -- Digits that exceed the limit are reported with the same fault.
    .error .portNumber
  else if digits.isEmpty then .ok (none, rest)
  else
    let number := Nat.ofDigitChars 10 digits 0
    if number > 65535 then .error .portNumber
    else .ok (if defaultPort? scheme = some number then none else some number, rest)

def isDoubleDot (segment : String) : Bool :=
  ["..", ".%2e", "%2e.", "%2e%2e"].contains (String.ofList (segment.toList.map Char.toLower))

def isSingleDot (segment : String) : Bool :=
  [".", "%2e"].contains (String.ofList (segment.toList.map Char.toLower))

/-- Whether a segment is a letter and a colon or a bar, which name a drive. -/
def isDriveLetter (segment : String) : Bool :=
  match segment.toList with
  | [letter, mark] => letter.isAlpha && (mark = ':' || mark = '|')
  | _ => false

/-- Whether a segment names a drive, up to a backslash if it has one. -/
def namesDrive (segment : String) : Bool :=
  isDriveLetter (String.ofList (segment.toList.takeWhile (· ≠ '\\')))

/-- Takes one more segment into a path that is kept in reverse. No dots lead out of a drive. -/
def addSegment (isLast : Bool) (reversed : List String) (segment : String) : List String :=
  if isDoubleDot segment then
    let shorter := if reversed.head?.any namesDrive then reversed else reversed.tail
    if isLast then "" :: shorter else shorter
  else if isSingleDot segment then
    if isLast then "" :: reversed else reversed
  else segment :: reversed

/-- Resolves the segments of a path in order. -/
def addSegments (reversed : List String) : List String → List String
  | [] => reversed
  | [segment] => addSegment true reversed segment
  | segment :: rest => addSegments (addSegment false reversed segment) rest

/-- Splits at slashes of the scheme. -/
def splitSegments (special : Bool) (text : List Char) : List (List Char) :=
  Text.fields '/' (text.map fun char => if isSlash special char then '/' else char)

/-- The path of a text that begins after its first slash. -/
def readSegments (special : Bool) (text : List Char) : List String :=
  (addSegments [] ((splitSegments special text).map (encodeChars PercentEncoding.path))).reverse

/-- The segments of the path of a local file. Empty ones in front are left out, for it begins with one
slash. -/
def fileSegments (segments : List String) : List String :=
  match segments.dropWhile (· = "") with
  | [] => [""]
  | rest => rest

/-- Divides what follows the authority into path, query and fragment. -/
def spanParts (text : List Char) : List Char × Option (List Char) × Option (List Char) :=
  let (front, fragment) := match Text.splitAt? '#' text with
    | some (front, fragment) => (front, some fragment)
    | none => (text, none)
  match Text.splitAt? '?' front with
  | some (path, query) => (path, some query, fragment)
  | none => (front, none, fragment)

def queryText (special : Bool) (query : List Char) : String :=
  encodeChars (if special then PercentEncoding.specialQuery else PercentEncoding.query) query

def fragmentText (fragment : List Char) : String :=
  encodeChars PercentEncoding.fragment fragment

/-- Reads what follows the two slashes of a scheme with a host. -/
def readAuthority (scheme : String) (text : List Char) : Except Fault Url := do
  let special := isSpecial scheme
  let authority := text.takeWhile (!endsAuthority special ·)
  let rest := text.dropWhile (!endsAuthority special ·)
  let (userInfo, hostPart) ← match splitUserInfo? authority with
    | none => pure (([] : List Char), authority)
    | some ([], host) => if host.isEmpty ∧ !rest.isEmpty then throw .emptyHost else pure ([], host)
    | some (userInfo, host) => pure (userInfo, host)
  let (username, password) := readUserInfo userInfo
  let (hostText, afterHost) := spanHost false hostPart
  if special && hostText.isEmpty then throw .emptyHost
  let host ← if special then readHost hostText else readOpaqueHost hostText
  let isAbsent := host == .domain ""
  if isAbsent && !afterHost.isEmpty then throw .emptyHost
  let (portNumber, behindPort) ← match afterHost with
    | ':' :: text => readPort scheme text
    | _ => pure (none, [])
  if isAbsent && (!username.isEmpty || password.isSome) then throw .emptyHost
  let (path, query, fragment) := spanParts (behindPort ++ rest)
  let segments := match path with
    | [] => if special then [""] else []
    | first :: inner => readSegments special (if isSlash special first then inner else path)
  return {
    scheme, username, password, hasAuthority := true
    host := if isAbsent then none else some host
    portNumber, path := .segments segments
    query := query.map (queryText special)
    fragment := fragment.map fragmentText }

/-- Reads what follows the scheme of a local file. A path that begins with a drive leaves no host. -/
def readFile (text : List Char) : Except Fault Url := do
  let slash (char : Char) : Bool := isSlash true char
  let (host, path) ← match text with
    | first :: second :: rest =>
      if slash first && slash second then do
        let hostText := rest.takeWhile (!endsAuthority true ·)
        if hostText.isEmpty || isDriveLetter (String.ofList hostText) then pure (none, rest)
        else
          match ← readHost hostText with
          | .domain "localhost" => pure (none, rest.drop hostText.length)
          | host => pure (some host, rest.drop hostText.length)
      else pure (none, text)
    | _ => pure (none, text)
  let (path, query, fragment) := spanParts path
  let inner := match path with
    | first :: inner => if slash first then inner else path
    | [] => []
  let segments := readSegments true inner
  return {
    scheme := "file", username := "", password := none, hasAuthority := true
    host := if segments.head?.any isDriveLetter then none else host
    portNumber := none, path := .segments (fileSegments segments)
    query := query.map (queryText true)
    fragment := fragment.map fragmentText }

/-- Reads what follows a scheme without two slashes. -/
def readPlain (scheme : String) (text : List Char) : Url :=
  let (path, query, fragment) := spanParts text
  let path := match path with
    | '/' :: inner => .segments (readSegments false inner)
    | _ => .opaqueText (encodeChars PercentEncoding.controls path)
  { scheme, username := "", password := none, hasAuthority := false, host := none
    portNumber := none, path
    query := query.map (queryText false)
    fragment := fragment.map fragmentText }

/-- Reads a URL. -/
def parse (text : String) : Except Fault Url :=
  match scheme? (readable text) with
  | none => .error .relative
  | some (scheme, rest) =>
    if scheme = "file" then readFile rest
    else if isSpecial scheme then readAuthority scheme (rest.dropWhile (isSlash true))
    else
      match rest with
      | '/' :: '/' :: rest => readAuthority scheme rest
      | _ => .ok (readPlain scheme rest)

def parse? (text : String) : Option Url :=
  (parse text).toOption

/-- The names and values of a query. -/
def queryPairs (query : String) : List (String × String) :=
  ((Text.fields '&' query.toList).filter (!·.isEmpty)).map fun pair =>
    match Text.splitAt? '=' pair with
    | some (name, value) => (PercentEncoding.decodeForm name, PercentEncoding.decodeForm value)
    | none => (PercentEncoding.decodeForm pair, "")

/-- Pairs as form data write them. -/
def formText (pairs : List (String × String)) : List Char :=
  Text.join ['&'] (pairs.map fun pair =>
    PercentEncoding.encodeForm pair.1 ++ '=' :: PercentEncoding.encodeForm pair.2)

/-- The URL with more pairs in its query. -/
def withPairs (url : Url) (pairs : List (String × String)) : Url :=
  if pairs.isEmpty then url
  else
    let added := String.ofList (formText pairs)
    { url with query := some (match url.query with
        | none | some "" => added
        | some query => query ++ "&" ++ added) }

/-- The last segment of the path that is not empty, with its escapes decoded. -/
def filename? (url : Url) : Option String := do
  let segments ← url.pathSegments?
  let segment ← segments.reverse.find? (!·.isEmpty)
  Utf8.decode? (PercentEncoding.decode segment)

end StoreGate.Url
