import StoreGate.Bits
import StoreGate.Url.Basic
import StoreGate.Url.DomainName
/-!
# Reading hosts

Addresses in brackets, domain names in their ASCII form, and the numeric spellings of addresses. A
name whose last label looks like a number is an address or nothing.
-/

namespace StoreGate.Url

/-- Reads a number of a numeric host: decimal, octal after a zero, hexadecimal after `0x`. Nothing at
all is no number; a number that is too large is kept as such. -/
def ipv4Number? (text : List Char) : Option Nat :=
  let hexadecimal (digits : List Char) : Option Nat := do
    let values ← digits.mapM Hexadecimal.value?
    return values.foldl (fun value digit => 16 * value + digit) 0
  match text with
  | [] => none
  | '0' :: 'x' :: digits | '0' :: 'X' :: digits => hexadecimal digits
  | '0' :: digit :: digits =>
    if (digit :: digits).all fun char => '0' ≤ char && char ≤ '7' then
      some (Nat.ofDigitChars 8 (digit :: digits) 0)
    else none
  | digits => if digits.all Char.isDigit then some (Nat.ofDigitChars 10 digits 0) else none

/-- Whether the last label of a name, which may be followed by a dot, looks like a number. -/
def endsInNumber (name : List Char) : Bool :=
  let check (label : List Char) : Bool :=
    (!label.isEmpty && label.all Char.isDigit) || (ipv4Number? label).isSome
  match (Text.fields '.' name).reverse with
  | [[]] => false
  | [] :: label :: _ => check label
  | label :: _ => check label
  | [] => false

/-- The address that a numeric name spells. The last number fills all places that are left. -/
def ipv4? (name : List Char) : Option Nat := do
  let labels := match (Text.fields '.' name).reverse with
    | [] :: rest => rest.reverse
    | _ => Text.fields '.' name
  if labels.length > 4 then none
  let numbers ← labels.mapM ipv4Number?
  let last ← numbers.getLast?
  let first := numbers.dropLast
  if bitLimit 32 ≤ last * Nat.pow 256 first.length ∨ first.any (255 < ·) then none
  let places := [16777216, 65536, 256]
  return (first.zip places).foldl (fun total pair => total + pair.1 * pair.2) last

/-- Reads a number of up to four hexadecimal digits, with what follows it. -/
def ipv6Piece? (text : List Char) : Option (Nat × List Char) := do
  let digits := (text.take 4).takeWhile Hexadecimal.isDigit
  if digits.isEmpty then none
  let values ← digits.mapM Hexadecimal.value?
  return (values.foldl (fun value digit => 16 * value + digit) 0, text.drop digits.length)

/-- Reads an address in dotted decimal at the end of another one, as two numbers. -/
def ipv6Tail? (text : List Char) : Option (List Nat) := do
  let numbers ← (Text.fields '.' text).mapM fun label =>
    if label.isEmpty ∨ label.length > 3 ∨ !label.all Char.isDigit ∨
        (label.length > 1 ∧ label.head? = some '0') then none
    else
      let value := Nat.ofDigitChars 10 label 0
      if value ≤ 255 then some value else none
  match numbers with
  | [a, b, c, d] => some [a * 256 + b, c * 256 + d]
  | _ => none

/-- Reads the numbers of an address between colons. -/
def ipv6Pieces? : (fuel : Nat) → List Char → Option (List Nat)
  | 0, _ => none
  | fuel + 1, text =>
    if (text.takeWhile (· ≠ ':')).contains '.' then ipv6Tail? text
    else
      match ipv6Piece? text with
      | none => none
      | some (piece, []) => some [piece]
      | some (piece, ':' :: rest) => (ipv6Pieces? fuel rest).map (piece :: ·)
      | some _ => none

/-- The numbers of an address, of which two colons leave out a run of zeros. -/
def ipv6? (text : List Char) : Option (List Nat) :=
  let pieces? (part : List Char) : Option (List Nat) :=
    if part.isEmpty then some [] else ipv6Pieces? 9 part
  match Text.splitAtMark? [':', ':'] text with
  | none => do
    let pieces ← pieces? text
    if pieces.length = 8 then some pieces else none
  | some (before, after) => do
    if before.contains '.' then none
    let first ← pieces? before
    let last ← pieces? after
    if first.length + last.length < 8 then
      some (first ++ List.replicate (8 - first.length - last.length) 0 ++ last)
    else none

/-- Characters that no other host holds. -/
def isForbiddenInHost (char : Char) : Bool :=
  "\x00\t\n\r #/:<>?@[\\]^|".toList.contains char

def bracketed? (text : List Char) : Option (Except Fault Host) :=
  match text with
  | '[' :: rest =>
    some (if rest.getLast? = some ']' then
      match ipv6? rest.dropLast with
      | some pieces => .ok (.ipv6 pieces)
      | none => .error .ipv6
    else .error .ipv6)
  | _ => none

/-- Reads the host of a scheme of the web. -/
def readHost (text : List Char) : Except Fault Host :=
  match bracketed? text with
  | some host => host
  | none =>
    match asciiDomain? (PercentEncoding.decode (String.ofList text)) with
    | none => .error .domainName
    | some [] => .error .emptyHost
    | some name =>
      if endsInNumber name then
        match ipv4? name with
        | some address => .ok (.ipv4 address)
        | none => .error .ipv4
      else .ok (.domain (String.ofList name))

/-- Reads the host of any other scheme. -/
def readOpaqueHost (text : List Char) : Except Fault Host :=
  match bracketed? text with
  | some host => host
  | none =>
    if text.any isForbiddenInHost then .error .domainCharacter
    else .ok (.domain (String.ofList (PercentEncoding.encode PercentEncoding.controls
      (String.ofList text))))

end StoreGate.Url
