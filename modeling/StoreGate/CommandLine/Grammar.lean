import StoreGate.Decimal
import StoreGate.Text.Split
import StoreGate.Tunnel
/-!
# The grammar of command lines

A command takes settings and words, and may hand over to a command inside it. A setting has a name
after two dashes and perhaps a letter after one; flags can share a dash, and a value stands in the
same argument or in the next one, where it must not look like a setting. After two dashes alone
everything is a word. Arguments are read from left to right, and the first fault ends the reading.
-/

namespace StoreGate.CommandLine

/-- What the value of a setting has to be. -/
inductive Shape where
  /-- There is no value. -/
  | flag
  | text
  /-- The path of a file, which is not empty. -/
  | path
  | tunnel
  /-- A natural number of at most some bits. -/
  | natural (bits : Nat)
  /-- A natural number of at most some bits, read as a signed one. -/
  | signedNatural (bits : Nat)
  deriving DecidableEq

namespace Shape

/-- The natural number of a value. -/
def natural? : Shape → String → Option Nat
  | .natural bits, value => Decimal.natural? bits value
  | .signedNatural bits, value => do
    let number ← Decimal.signed? value
    if 0 ≤ number ∧ number < bitLimit bits then some number.toNat else none
  | _, _ => none

def accepts (shape : Shape) (value : String) : Bool :=
  match shape with
  | .flag => false
  | .text => true
  | .path => !value.isEmpty
  | .tunnel => (Tunnel.ofName value).isOk
  | .natural _ | .signedNatural _ => (shape.natural? value).isSome

end Shape

structure Setting where
  name : String
  letter : Option Char
  shape : Shape
  /-- Whether the setting may be given several times. -/
  isRepeatable : Bool
  deriving DecidableEq

/-- What a command takes. -/
structure Grammar where
  settings : List Setting
  /-- The number of words at most; nothing for any number. -/
  words : Option Nat
  /-- The names of the commands inside this one. -/
  commands : List String

/-- Why no command is carried out. -/
inductive Stop where
  /-- The arguments follow no grammar. -/
  | misuse
  | help
  | version
  deriving DecidableEq, Repr

/-- What was given to a command. -/
structure Reading where
  given : List (Setting × String)
  words : List String

namespace Reading

def empty : Reading := ⟨[], []⟩

/-- Adds a word, if there is room for it. -/
def addWord (grammar : Grammar) (reading : Reading) (word : String) : Except Stop Reading :=
  if grammar.words.any (· ≤ reading.words.length) then .error .misuse
  else .ok { reading with words := reading.words ++ [word] }

/-- Adds a setting. Help and version are wanted at once. -/
def add (reading : Reading) (setting : Setting) (value : String) : Except Stop Reading :=
  if setting.name = "help" then .error .help
  else if setting.name = "version" then .error .version
  else if setting.shape ≠ .flag && !setting.shape.accepts value then .error .misuse
  else if !setting.isRepeatable && reading.given.any (·.1 = setting) then .error .misuse
  else .ok { reading with given := reading.given ++ [(setting, value)] }

/-- The values of a setting, in the order given. -/
def values (reading : Reading) (name : String) : List String :=
  (reading.given.filter fun entry => entry.1.name = name).map (·.2)

def value? (reading : Reading) (name : String) : Option String :=
  (reading.values name).head?

def has (reading : Reading) (name : String) : Bool :=
  (reading.value? name).isSome

/-- The number that a setting was given. -/
def natural (reading : Reading) (name : String) (standard : Nat) : Nat :=
  match reading.given.find? fun entry => entry.1.name = name with
  | some (setting, value) => (setting.shape.natural? value).getD standard
  | none => standard

end Reading

/-- What is left to do after the settings of one argument. -/
inductive Remainder where
  | nothing
  /-- The value of a setting is the next argument. -/
  | value (setting : Setting)
  /-- A setting is not known. -/
  | unknown

namespace Grammar

/-- The settings of an argument with two dashes. -/
def long (grammar : Grammar) (body : List Char) : List (Setting × String) × Remainder :=
  let (name, value?) := match Text.splitAt? '=' body with
    | some (name, value) => (name, some (String.ofList value))
    | none => (body, none)
  match grammar.settings.find? (·.name = String.ofList name) with
  | none => ([], .unknown)
  | some setting =>
    match value? with
    | none => if setting.shape = .flag then ([(setting, "")], .nothing) else ([], .value setting)
    | some value => if setting.shape = .flag then ([], .unknown) else ([(setting, value)], .nothing)

/-- The settings of an argument with one dash. -/
def short (grammar : Grammar) : List Char → List (Setting × String) × Remainder
  | [] => ([], .nothing)
  | letter :: rest =>
    match grammar.settings.find? (·.letter = some letter) with
    | none => ([], .unknown)
    | some setting =>
      if setting.shape = .flag then
        let (others, remainder) := short grammar rest
        ((setting, "") :: others, remainder)
      else
        match rest with
        | [] => ([], .value setting)
        | '=' :: value => ([(setting, String.ofList value)], .nothing)
        | value => ([(setting, String.ofList value)], .nothing)

/-- The settings of an argument, if it is not a word. -/
def settings? (grammar : Grammar) (argument : String) :
    Option (List (Setting × String) × Remainder) :=
  match argument.toList with
  | '-' :: '-' :: body => some (grammar.long body)
  | ['-'] => none
  | '-' :: body => some (grammar.short body)
  | _ => none

/-- Reads the arguments of a command up to the name of a command inside it, which comes back with
what follows it. -/
def read (grammar : Grammar) (reading : Reading) :
    List String → Except Stop (Reading × Option (String × List String))
  | [] => .ok (reading, none)
  | argument :: rest => do
    if grammar.commands.contains argument then return (reading, some (argument, rest))
    if argument = "--" then
      return (← rest.foldlM (Reading.addWord grammar) reading, none)
    match grammar.settings? argument with
    | none => read grammar (← reading.addWord grammar argument) rest
    | some (settings, remainder) =>
      let reading ← settings.foldlM (fun reading entry => reading.add entry.1 entry.2) reading
      match remainder with
      | .unknown => throw .misuse
      | .nothing => read grammar reading rest
      | .value setting =>
        match rest with
        | [] => throw .misuse
        | value :: others =>
          if (grammar.settings? value).isSome then throw .misuse
          read grammar (← reading.add setting value) others

end Grammar

end StoreGate.CommandLine
