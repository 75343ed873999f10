import StoreGate.Hexadecimal
import StoreGate.Json.Basic
/-!
# Writing JSON documents

The compact form has no blanks; the indented form puts every item and member on its own line, two
blanks deeper than what encloses it. Only quotes, backslashes and control characters are escaped.
-/

namespace StoreGate.Json

/-- How a character is written inside a string. -/
def escape (char : Char) : List Char :=
  if char = '"' then ['\\', '"']
  else if char = '\\' then ['\\', '\\']
  else if char = '\n' then ['\\', 'n']
  else if char = '\r' then ['\\', 'r']
  else if char = '\t' then ['\\', 't']
  else if char = '\x08' then ['\\', 'b']
  else if char = '\x0c' then ['\\', 'f']
  else if char.toNat < 0x20 then
    ['\\', 'u', '0', '0', Hexadecimal.digit (char.toNat / 16), Hexadecimal.digit (char.toNat % 16)]
  else [char]

def quoted (text : String) : List Char :=
  '"' :: (text.toList.flatMap escape ++ ['"'])

/-- Decimal digits, after a minus sign for a negative number. -/
def integerText : Int → List Char
  | .ofNat value => Nat.toDigits 10 value
  | .negSucc value => '-' :: Nat.toDigits 10 (value + 1)

/-- The digits and the power of ten of a number that is no integer. -/
def decimalText (negative : Bool) (digits : Nat) (exponent : Int) : List Char :=
  (if negative then ['-'] else []) ++ Nat.toDigits 10 digits ++ 'e' :: integerText exponent

mutual

/-- The compact form. -/
def render : Json → List Char
  | .null | .unreadable => ['n', 'u', 'l', 'l']
  | .boolean true => ['t', 'r', 'u', 'e']
  | .boolean false => ['f', 'a', 'l', 's', 'e']
  | .integer value => integerText value
  | .decimal negative digits exponent => decimalText negative digits exponent
  | .string text => quoted text
  | .array items => '[' :: (renderItems items ++ [']'])
  | .object members => '\x7b' :: (renderMembers members ++ ['\x7d'])

def renderItems : List Json → List Char
  | [] => []
  | [item] => render item
  | item :: rest => render item ++ ',' :: renderItems rest

def renderMembers : List (String × Json) → List Char
  | [] => []
  | [(name, value)] => quoted name ++ ':' :: render value
  | (name, value) :: rest => quoted name ++ ':' :: (render value ++ ',' :: renderMembers rest)

end

/-- The compact form as text. -/
def text (value : Json) : String :=
  String.ofList (render value)

/-- A new line with some levels of indentation. -/
def newLine (level : Nat) : List Char :=
  '\n' :: List.replicate (2 * level) ' '

mutual

/-- The indented form at a level. -/
def indent (level : Nat) : Json → List Char
  | .array [] => ['[', ']']
  | .object [] => ['\x7b', '\x7d']
  | .array (item :: rest) =>
    '[' :: (newLine (level + 1) ++ indent (level + 1) item ++ indentItems (level + 1) rest ++
      newLine level ++ [']'])
  | .object ((name, value) :: rest) =>
    '\x7b' :: (newLine (level + 1) ++ quoted name ++ [':', ' '] ++ indent (level + 1) value ++
      indentMembers (level + 1) rest ++ newLine level ++ ['\x7d'])
  | value => render value

def indentItems (level : Nat) : List Json → List Char
  | [] => []
  | item :: rest => ',' :: (newLine level ++ indent level item ++ indentItems level rest)

def indentMembers (level : Nat) : List (String × Json) → List Char
  | [] => []
  | (name, value) :: rest =>
    ',' :: (newLine level ++ quoted name ++ [':', ' '] ++ indent level value ++
      indentMembers level rest)

end

/-- The indented form as text. -/
def indentedText (value : Json) : String :=
  String.ofList (indent 0 value)

end StoreGate.Json
