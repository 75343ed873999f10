import StoreGate.CommandLine.Command
import StoreGate.CommandLine.Trouble
import StoreGate.Gateway.Server
import StoreGate.Proxy.Link
import StoreGate.Text.Blank
/-!
# Carrying out commands

A command reads the settings, does one thing, and gives the text to print or the mishap it met.
-/

namespace StoreGate.CommandLine

/-- The settings in a file, or the standard ones. -/
def loadConfig : Option (String × Outcome (List UInt8)) → Except Trouble GatewayConfig
  | none => .ok .standard
  | some (path, content) =>
    (content >>= GatewayConfig.read).mapError
      (Trouble.ofFailure ("Failed to load configuration from " ++ path))

/-- A header, whose name stands before a colon. -/
def parseHeader (header : String) : Except Trouble (String × String) :=
  match Text.splitTextAt? ':' header with
  | none => .error ⟨"Invalid header '" ++ header ++ "', expected 'Name: value'", []⟩
  | some (name, value) =>
    if (Text.trim name).isEmpty then
      .error ⟨"Invalid header '" ++ header ++ "', name is empty", []⟩
    else .ok (Text.trim name, Text.trim value)

/-- The secret that a link is issued with. -/
def secretFor (config : GatewayConfig) (options : LinkOptions) : Except Trouble String :=
  match options.password <|> config.credentials.secret? options.user with
  | some secret => .ok secret
  | none => .error ⟨"No secret configured for user '" ++ options.user ++ "'", []⟩

/-- The request that the options make up. -/
def requestOf (config : GatewayConfig) (options : LinkOptions) : Except Trouble LinkRequest := do
  let secret ← secretFor config options
  let headers ← options.headers.mapM parseHeader
  return {
    link := options.url, headers := TextMap.ofList headers, tunnel := options.tunnel
    lifetime := Duration.ofSeconds options.expiresIn, user := options.user, secret
    isSealed := options.isSealed, filename := options.filename }

/-- Issues a link at a time in seconds. -/
def issueLink (now : Nat) (nonce : Nonce) (config : GatewayConfig) (options : LinkOptions) :
    Except Mishap String := do
  let request ← (requestOf config options).mapError .trouble
  (ProxyLink.create now nonce config.baseUrl request).mapError
    (Mishap.ofHalt "Failed to create proxy link")

/-- A socket address, whose port stands after its last colon. -/
def checkAddress (address : String) : Outcome Unit :=
  match Text.splitAt? ':' address.toList.reverse with
  | none => .error (.inputOutput "invalid socket address")
  | some (port, _) =>
    match Decimal.natural? 16 (String.ofList port.reverse) with
    | none => .error (.inputOutput "invalid port value")
    | some _ => .ok ()

variable {World : Type}

/-- Sets up the gateway and its address. The program has no listener of its own to go on with. -/
def serve (host : Registry.Host World) (config : GatewayConfig) (listen : Option String) :
    Except Trouble String :=
  let outcome : Outcome String := do
    let _ ← Gateway.ofConfig host config
    checkAddress (listen.getD config.listen)
    throw (.inputOutput "no listener is available")
  outcome.mapError (Trouble.ofFailure "Gateway failed")

/-- What could not be done when an action fails. -/
def StoreAction.complaint (store : Store) : StoreAction → String
  | .user => "Failed to fetch " ++ store.name ++ " user"
  | .list _ => "Failed to list " ++ store.name ++ " magnets"
  | .get id => "Failed to fetch " ++ store.name ++ " magnet " ++ id
  | .add _ => "Failed to add magnet to " ++ store.name
  | .remove id => "Failed to remove " ++ store.name ++ " magnet " ++ id
  | .check _ => "Failed to check magnets on " ++ store.name
  | .resolve _ => "Failed to resolve link on " ++ store.name
  | .files parent _ => "Failed to list " ++ store.name ++ " folder '" ++ parent ++ "'"
  | .search query _ => "Failed to search " ++ store.name ++ " for '" ++ query ++ "'"
  | .folder name _ => "Failed to find " ++ store.name ++ " folder '" ++ name ++ "'"
  | .file id => "Failed to fetch " ++ store.name ++ " file " ++ id

/-- Lists a drive. -/
def browse (browser : DriveBrowser World) (caller : Caller World) (parent : String) :
    Walk → Action World Json
  | .page size token =>
    return (← browser.listFiles caller
      { FileQuery.page parent token with pageSize := size }).toJson
  | .recursive => return itemsJson (← browser.listRecursive caller parent)
  | .flat => return itemsJson (← browser.listFlat caller parent)
  | .videos => return itemsJson (← browser.listVideos caller parent)
where
  itemsJson (items : List DriveItem) : Json :=
    .array (items.map DriveItem.toJson)

/-- The text that an action gives. There is none if the action needs a drive that the store does not
have. -/
def perform (provider : Provider World) (caller : Caller World) :
    StoreAction → Option (Action (Session World) String)
  | .user => some do
    return (← Session.outside (provider.user caller)).toJson.indentedText
  | .list range => some do
    return (← provider.list caller range).toJson.indentedText
  | .get id => some do
    return (← Session.outside (provider.item caller id)).toJson.indentedText
  | .add magnet => some do
    return (← provider.add caller (.magnet magnet)).toJson.indentedText
  | .remove id => some do
    return "Removed " ++ (← provider.remove caller id)
  | .check magnets => some do
    let checks ← Session.outside (provider.check caller magnets)
    return (Json.array (checks.map MagnetCheck.toJson)).indentedText
  | .resolve link => some (Session.outside (provider.resolve caller link))
  | .files parent walk => provider.browser.map fun browser => do
    return (← Session.outside (browse browser caller parent walk)).indentedText
  | .search query token => provider.browser.map fun browser => do
    return (← Session.outside (browser.search caller query token)).toJson.indentedText
  | .folder name parent => provider.browser.map fun browser => do
    return (← Session.outside (browser.folderByName caller parent name)).toJson.indentedText
  | .file id => provider.browser.map fun browser => do
    return (← Session.outside (browser.fileDetails caller id)).toJson.indentedText

/-- Asks a store of the settings. -/
def askStore (host : Registry.Host World) (config : GatewayConfig) (identity : String)
    (apiKey : Option String) (action : StoreAction) :
    StateM (Session World) (Except Mishap String) := do
  match Registry.ofConfig host config.stores config.transport with
  | .error failure => return trouble (.ofFailure "Failed to build store registry" failure)
  | .ok registry =>
    match registry.resolve? identity with
    | none => return trouble ⟨"Store '" ++ identity ++ "' is not configured", []⟩
    | some provider =>
      match perform provider ⟨apiKey, none, fun _ => false⟩ action with
      | none => return trouble ⟨"Store '" ++ provider.store.name ++ "' has no browsable drive", []⟩
      | some steps =>
        return (← ExceptT.run steps).mapError (.ofHalt (action.complaint provider.store))
where
  trouble (met : Trouble) : Except Mishap String :=
    .error (.trouble met)

/-- Carries out a command with the file of settings that was named, if any. -/
def run (host : Registry.Host World) (nonce : Nonce)
    (file : Option (String × Outcome (List UInt8))) (command : Command) :
    StateM (Session World) (Except Mishap String) := do
  match loadConfig file with
  | .error met => return .error (.trouble met)
  | .ok config =>
    match command with
    | .serve listen => return (serve host config listen).mapError .trouble
    | .link options =>
      let now := (host.clock.time (← get).world).seconds.toNat
      return issueLink now nonce config options
    | .store identity apiKey action => askStore host config identity apiKey action

end StoreGate.CommandLine
