import StoreGate.Proxy.Token
import StoreGate.Url.Parser
/-!
# Proxy links

The full link of a token: the base address of the gateway, the route of proxy links, the token, and
a file name as the last segment, so that players show a sensible title.
-/

namespace StoreGate.ProxyLink

/-- The route of proxy links. -/
def route : String := "/v0/proxy"

/-- The file name that an address ends with. -/
def filenameOf? (link : String) : Option String := do
  (← Url.parse? link).filename?

/-- The file name that the link of a request shows. -/
def filename? (request : LinkRequest) : Option String :=
  (request.filename.filter (!·.isEmpty)) <|> filenameOf? request.link

/-- A base address without slashes at its end. -/
def trimSlashes (base : String) : String :=
  String.ofList (base.toList.reverse.dropWhile (· = '/')).reverse

/-- The link for a token under a base address. -/
def ofToken (base : String) (request : LinkRequest) (token : String) : String :=
  let link := trimSlashes base ++ route ++ "/" ++ token
  match filename? request with
  | none => link
  | some name =>
    link ++ "/" ++ String.ofList (PercentEncoding.encode PercentEncoding.pathSegment name)

/-- The full link for a request, at a time in seconds. -/
def create (now : Nat) (nonce : Nonce) (base : String) (request : LinkRequest) :
    Except Halt String := do
  return ofToken base request (← ProxyToken.create now nonce request)

end StoreGate.ProxyLink
