import StoreGate.Bits
import StoreGate.Json.Basic
import StoreGate.TextMap
/-!
# Reading typed values from JSON

A reader gives a typed value or nothing. A record may be written as an object, whose unknown members
are skipped and whose known ones stand at most once, or as an array of its fields in order. An
alternative without data is written as its name, or as an object with that name and null.
-/

namespace StoreGate.Json

def text? : Json → Option String
  | .string text => some text
  | _ => none

def boolean? : Json → Option Bool
  | .boolean value => some value
  | _ => none

/-- An integer between two bounds, both included. -/
def integerWithin? (low high : Int) : Json → Option Int
  | .integer value => if low ≤ value ∧ value ≤ high then some value else none
  | _ => none

/-- A natural number of at most some bits. -/
def natural? (bits : Nat) (value : Json) : Option Nat :=
  (value.integerWithin? 0 (bitLimit bits - 1)).map Int.toNat

/-- A signed integer of 64 bits. -/
def signed? (value : Json) : Option Int :=
  value.integerWithin? (-bitLimit 63) (bitLimit 63 - 1)

/-- A value that may be null. -/
def nullable? {α : Type} (read : Json → Option α) : Json → Option (Option α)
  | .null => some none
  | value => (read value).map some

def list? {α : Type} (read : Json → Option α) : Json → Option (List α)
  | .array items => items.mapM read
  | _ => none

/-- A map from text to text; of several members with one name the last one counts. -/
def textMap? : Json → Option TextMap
  | .object members => (members.mapM fun member => (text? member.2).map (member.1, ·)).map TextMap.ofList
  | _ => none

/-- A map from text to text as an object. -/
def ofTextMap (map : TextMap) : Json :=
  .object (map.entries.map fun entry => (entry.1, .string entry.2))

/-- A map from names to values in the order given. -/
def members? {α : Type} (read : Json → Option α) : Json → Option (List (String × α))
  | .object members => members.mapM fun member => (read member.2).map (member.1, ·)
  | _ => none

/-- A value kept as it stands. -/
def storable? (value : Json) : Option Json :=
  if value.isStorable then some value else none

/-- One of several named alternatives. -/
def choice? {α : Type} (choices : List (String × α)) : Json → Option α
  | .string name => choices.lookup name
  | .object [(name, .null)] => choices.lookup name
  | _ => none

/-- The values given for the fields of a record. -/
structure Fields where
  given : List (String × Json)

/-- The canonical spelling of a member's name. -/
def canonical (spellings : List (String × String)) (member : String × Json) : String × Json :=
  ((spellings.lookup member.1).getD member.1, member.2)

/-- The fields of a record with the given names, some of which have other spellings. -/
def spelledFields? (names : List String) (spellings : List (String × String)) :
    Json → Option Fields
  | .object members =>
    let known := (members.map (canonical spellings)).filter fun member => names.contains member.1
    if (known.map Prod.fst).Nodup then some ⟨known⟩ else none
  | .array items => if items.length ≤ names.length then some ⟨names.zip items⟩ else none
  | _ => none

/-- The fields of a record with the given names. -/
def fields? (names : List String) : Json → Option Fields :=
  spelledFields? names []

namespace Fields

/-- A field that must be given. -/
def required {α : Type} (fields : Fields) (name : String) (read : Json → Option α) : Option α :=
  fields.given.lookup name >>= read

/-- A field with a value for when it is not given. -/
def withDefault {α : Type} (fields : Fields) (name : String) (value : α) (read : Json → Option α) :
    Option α :=
  match fields.given.lookup name with
  | none => some value
  | some given => read given

/-- A field that may be absent or null. -/
def optional {α : Type} (fields : Fields) (name : String) (read : Json → Option α) :
    Option (Option α) :=
  fields.withDefault name none (nullable? read)

end Fields

end StoreGate.Json
