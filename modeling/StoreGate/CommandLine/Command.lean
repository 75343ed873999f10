import StoreGate.CommandLine.Grammar
import StoreGate.Item
/-!
# Commands

What the program can be told to do, and how it is told.
-/

namespace StoreGate.CommandLine

def programName : String := "debridgate"

def versionText : String := programName ++ " 0.1.0"

/-- How the program is called. -/
def usage : String :=
  "Usage: " ++ programName ++ " [OPTIONS] <serve | link URL --user USER | store STORE ACTION>"

/-- What to list of a drive. -/
inductive Walk where
  /-- One page of a folder. -/
  | page (size : Nat) (token : Option String)
  /-- Everything below a folder. -/
  | recursive
  /-- The files below a folder. -/
  | flat
  /-- The videos directly in a folder. -/
  | videos

/-- What to ask a store. -/
inductive StoreAction where
  | user
  | list (range : PageRange)
  | get (id : String)
  | add (magnet : String)
  | remove (id : String)
  | check (magnets : List String)
  | resolve (link : String)
  | files (parent : String) (walk : Walk)
  | search (query : String) (pageToken : Option String)
  | folder (name parent : String)
  | file (id : String)

/-- The link to issue. -/
structure LinkOptions where
  url : String
  user : String
  /-- The secret; the configured one when absent. -/
  password : Option String
  /-- Headers, each with its name before a colon. -/
  headers : List String
  tunnel : Option Tunnel
  /-- The lifetime in seconds. -/
  expiresIn : Nat
  isSealed : Bool
  filename : Option String

inductive Command where
  | serve (listen : Option String)
  | link (options : LinkOptions)
  | store (identity : String) (apiKey : Option String) (action : StoreAction)

structure Invocation where
  isVerbose : Bool
  /-- The file with the settings of the gateway. -/
  config : Option String
  command : Command

def flag (name : String) : Setting := ⟨name, none, .flag, false⟩

def valued (name : String) (shape : Shape) : Setting := ⟨name, none, shape, false⟩

def Setting.withLetter (setting : Setting) (letter : Char) : Setting :=
  { setting with letter := some letter }

/-- The settings that every command takes. -/
def sharedSettings : List Setting :=
  [(valued "config" .path).withLetter 'c', (flag "help").withLetter 'h']

/-- A command that takes words, and settings of its own. -/
def Grammar.leaf (words : Option Nat) (settings : List Setting) : Grammar :=
  ⟨settings ++ sharedSettings, words, []⟩

def commandNames : List String := ["serve", "link", "store", "help"]

def programGrammar : Grammar :=
  ⟨[(flag "verbose").withLetter 'v', (flag "version").withLetter 'V'] ++ sharedSettings, some 0,
    commandNames⟩

def serveGrammar : Grammar :=
  .leaf (some 0) [(valued "listen" .text).withLetter 'l']

def linkGrammar : Grammar :=
  .leaf (some 1)
    [(valued "user" .text).withLetter 'u', (valued "password" .text).withLetter 'p',
      { (valued "header" .text).withLetter 'H' with isRepeatable := true },
      (valued "tunnel" .tunnel).withLetter 't', (valued "expires-in" (.natural 64)).withLetter 'e',
      flag "encrypt", (valued "filename" .text).withLetter 'f']

/-- The names of the store's commands, and what they take. -/
def actionGrammars : List (String × Grammar) :=
  [("user", .leaf (some 0) []),
    ("list", .leaf (some 0) [valued "offset" (.natural 64), valued "limit" (.natural 64)]),
    ("get", .leaf (some 1) []), ("add", .leaf (some 1) []), ("remove", .leaf (some 1) []),
    ("check", .leaf none []), ("resolve", .leaf (some 1) []),
    ("files", .leaf (some 1)
      [flag "recursive", flag "flat", flag "videos", valued "page-size" (.signedNatural 32),
        valued "page-token" .text]),
    ("search", .leaf (some 1) [valued "page-token" .text]),
    ("folder", .leaf (some 1) [valued "parent" .text]), ("file", .leaf (some 1) [])]

def storeGrammar : Grammar :=
  ⟨(valued "api-key" .text).withLetter 'k' :: sharedSettings, some 1,
    actionGrammars.map Prod.fst ++ ["help"]⟩

/-- The only word of a command that needs one. -/
def Reading.word (reading : Reading) : Except Stop String :=
  match reading.words with
  | [word] => .ok word
  | _ => .error .misuse

/-- What to list of a drive; the ways to list it exclude each other. -/
def Reading.walk (reading : Reading) : Except Stop Walk :=
  match reading.has "recursive", reading.has "flat", reading.has "videos" with
  | false, false, false =>
    .ok (.page (reading.natural "page-size" 100) (reading.value? "page-token"))
  | true, false, false => .ok .recursive
  | false, true, false => .ok .flat
  | false, false, true => .ok .videos
  | _, _, _ => .error .misuse

/-- What to ask a store, by the name of the command and what was given to it. -/
def StoreAction.ofReading (name : String) (reading : Reading) : Except Stop StoreAction := do
  match name with
  | "user" => return .user
  | "list" =>
    return .list
      ⟨reading.natural "offset" PageRange.first.offset, reading.natural "limit" PageRange.first.limit⟩
  | "get" => return .get (← reading.word)
  | "add" => return .add (← reading.word)
  | "remove" => return .remove (← reading.word)
  | "check" => return .check reading.words
  | "resolve" => return .resolve (← reading.word)
  | "files" => return .files (reading.words.headD "") (← reading.walk)
  | "search" => return .search (← reading.word) (reading.value? "page-token")
  | "folder" => return .folder (← reading.word) ((reading.value? "parent").getD "")
  | "file" => return .file (← reading.word)
  | _ => throw .misuse

def LinkOptions.ofReading (reading : Reading) : Except Stop LinkOptions := do
  let url ← reading.word
  match reading.value? "user" with
  | none => throw .misuse
  | some user =>
    return {
      url, user
      password := reading.value? "password"
      headers := reading.values "header"
      tunnel := (reading.value? "tunnel").bind fun name => (Tunnel.ofName name).toOption
      expiresIn := reading.natural "expires-in" 0
      isSealed := reading.has "encrypt"
      filename := reading.value? "filename" }

/-- Help on a command, which must be named by its path. -/
def help : List String → Stop
  | [] => .help
  | "store" :: action :: rest =>
    if rest.isEmpty && storeGrammar.commands.contains action then .help else .misuse
  | [name] => if commandNames.contains name then .help else .misuse
  | _ => .misuse

/-- Reads the arguments of a command that has no commands inside it. -/
def readLeaf (grammar : Grammar) (arguments : List String) : Except Stop Reading := do
  return (← grammar.read .empty arguments).1

/-- Reads the arguments after the name of a command, with the file of settings that they give. -/
def parseCommand (name : String) (arguments : List String) :
    Except Stop (Command × Option String) := do
  match name with
  | "serve" =>
    let reading ← readLeaf serveGrammar arguments
    return (.serve (reading.value? "listen"), reading.value? "config")
  | "link" =>
    let reading ← readLeaf linkGrammar arguments
    return (.link (← LinkOptions.ofReading reading), reading.value? "config")
  | "store" =>
    let (reading, inner) ← storeGrammar.read .empty arguments
    match inner with
    | none => throw .misuse
    | some ("help", topic) => throw (help ("store" :: topic))
    | some (name, arguments) =>
      let given ← readLeaf ((actionGrammars.lookup name).getD (.leaf none [])) arguments
      let action ← StoreAction.ofReading name given
      return (.store (← reading.word) (reading.value? "api-key") action,
        given.value? "config" <|> reading.value? "config")
  | "help" => throw (help arguments)
  | _ => throw .misuse

/-- Reads the arguments of the program. Of several files of settings the innermost counts. -/
def parse (arguments : List String) : Except Stop Invocation := do
  let (reading, inner) ← programGrammar.read .empty arguments
  match inner with
  | none => throw .misuse
  | some (name, arguments) =>
    let (command, config) ← parseCommand name arguments
    return ⟨reading.has "verbose", config <|> reading.value? "config", command⟩

end StoreGate.CommandLine
