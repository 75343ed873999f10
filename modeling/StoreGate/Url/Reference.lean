import StoreGate.Url.Parser
/-!
# References to other URLs

A reference is a URL of its own, or says how to get from one URL to another: to the same host, to the
same folder, or to the same document.
-/

namespace StoreGate.Url

/-- The scheme and the host of a URL. -/
def origin (url : Url) : String :=
  url.scheme ++ "://" ++ url.hostText

/-- The path of a URL without what follows its last slash. -/
def folderText (url : Url) : String :=
  match url.path with
  | .opaqueText text => text
  | .segments list => Path.text (.segments (list.dropLast ++ [""]))

/-- The URL that a reference leads to. -/
def follow (url : Url) (reference : String) : Except Fault Url :=
  let text := readable reference
  match scheme? text with
  | some _ => parse reference
  | none =>
    let rest := String.ofList text
    match text with
    | [] => .ok { url with fragment := none }
    | '/' :: '/' :: _ => parse (url.scheme ++ ":" ++ rest)
    | '/' :: _ => parse (url.origin ++ rest)
    | '?' :: _ => parse (url.origin ++ url.path.text ++ rest)
    | '#' :: _ => parse (url.origin ++ url.target ++ rest)
    | _ => parse (url.origin ++ url.folderText ++ rest)

end StoreGate.Url
