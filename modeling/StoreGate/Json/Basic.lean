/-!
# JSON values

A value as a document states it: members keep their order and may repeat a name, and integers are
kept apart from decimals. A string, or an object with a name, that is no Unicode text is still a
place in the document that a reader may skip; such a place is unreadable, and so is a number too
large for a finite double.
-/

namespace StoreGate

inductive Json where
  | null
  | boolean (value : Bool)
  /-- A whole number that fits in 64 bits, with or without a sign. -/
  | integer (value : Int)
  /-- Any other number: its sign, its digits, and the power of ten they are multiplied with. -/
  | decimal (negative : Bool) (digits : Nat) (exponent : Int)
  | string (text : String)
  | array (items : List Json)
  | object (members : List (String × Json))
  /-- A part of a document that can be skipped and has no value. -/
  | unreadable
  deriving Inhabited, Repr, BEq

namespace Json

/-- Null for nothing, and the value of something else. -/
def ofOption {α : Type} (write : α → Json) : Option α → Json
  | none => .null
  | some value => write value

def ofStrings (texts : List String) : Json :=
  .array (texts.map .string)

mutual

/-- How many arrays and objects enclose the most deeply nested value. -/
def depth : Json → Nat
  | .array items => depthOfItems items + 1
  | .object members => depthOfMembers members + 1
  | _ => 0

def depthOfItems : List Json → Nat
  | [] => 0
  | item :: rest => max (depth item) (depthOfItems rest)

def depthOfMembers : List (String × Json) → Nat
  | [] => 0
  | (_, value) :: rest => max (depth value) (depthOfMembers rest)

end

mutual

/-- Whether no part of the value is unreadable. -/
def isReadable : Json → Bool
  | .array items => areReadable items
  | .object members => haveReadableValues members
  | .unreadable => false
  | _ => true

def areReadable : List Json → Bool
  | [] => true
  | item :: rest => isReadable item && areReadable rest

def haveReadableValues : List (String × Json) → Bool
  | [] => true
  | (_, value) :: rest => isReadable value && haveReadableValues rest

end

/-- The deepest nesting that a value kept as it stands may have. -/
def depthLimit : Nat := 127

/-- Whether the value can be kept as it stands: readable throughout and not nested too deeply. -/
def isStorable (value : Json) : Bool :=
  value.isReadable && value.depth ≤ depthLimit

end Json

end StoreGate
