import StoreGate.Duration
import StoreGate.Text.Blank
import StoreGate.Text.Split
/-!
# Points in time

A point in time counts seconds from the beginning of 1970, and nanoseconds in that second. A leap
second is the second before it with more than a second's worth of nanoseconds. Dates follow the
Gregorian calendar without end, within the years that the readers accept.
-/

namespace StoreGate

structure Timestamp where
  seconds : Int
  nanoseconds : Nat
  deriving DecidableEq, Inhabited, Repr

namespace Timestamp

/-- Whether a time is not after another one. -/
def atMost (first second : Timestamp) : Bool :=
  first.seconds < second.seconds ||
    (first.seconds == second.seconds && first.nanoseconds ≤ second.nanoseconds)

def epoch : Timestamp := ⟨0, 0⟩

/-- The days from the beginning of 1970 to a date. The year is taken to begin in March, so that the
leap day is its last one. -/
def daysTo (year : Int) (month day : Nat) : Int :=
  let (year, month) : Int × Int := if 2 < month then (year, month - 3) else (year - 1, month + 9)
  let cycle := year / 400
  let yearOfCycle := year - 400 * cycle
  let dayOfYear : Int := (153 * month + 2) / 5 + day - 1
  let dayOfCycle := 365 * yearOfCycle + yearOfCycle / 4 - yearOfCycle / 100 + dayOfYear
  146097 * cycle + dayOfCycle - 719468

/-- The year, the month and the day that some days lead to from the beginning of 1970. -/
def dateAfter (days : Int) : Int × Nat × Nat :=
  let shifted := days + 719468
  let cycle := shifted / 146097
  let dayOfCycle := shifted - 146097 * cycle
  let yearOfCycle :=
    (dayOfCycle - dayOfCycle / 1460 + dayOfCycle / 36524 - dayOfCycle / 146096) / 365
  let dayOfYear := dayOfCycle - (365 * yearOfCycle + yearOfCycle / 4 - yearOfCycle / 100)
  let month := (5 * dayOfYear + 2) / 153
  let day := dayOfYear - (153 * month + 2) / 5 + 1
  let year := yearOfCycle + 400 * cycle
  if month < 10 then (year, (month + 3).toNat, day.toNat)
  else (year + 1, (month - 9).toNat, day.toNat)

def isLeapYear (year : Int) : Bool :=
  year % 4 = 0 && (year % 100 ≠ 0 || year % 400 = 0)

def daysInMonth (year : Int) (month : Nat) : Nat :=
  if month = 2 then (if isLeapYear year then 29 else 28)
  else if [4, 6, 9, 11].contains month then 30
  else 31

/-- A date and a time of day, as a clock on the wall shows them. -/
structure Civil where
  year : Int
  month : Nat
  day : Nat
  hour : Nat
  minute : Nat
  /-- Up to 60, which is a leap second. -/
  second : Nat
  nanosecond : Nat

/-- The years that dates may have. -/
def isYear (year : Int) : Bool :=
  -262143 ≤ year && year ≤ 262142

def Civil.isValid (civil : Civil) : Bool :=
  isYear civil.year && 1 ≤ civil.month && civil.month ≤ 12 && 1 ≤ civil.day &&
    civil.day ≤ daysInMonth civil.year civil.month && civil.hour ≤ 23 && civil.minute ≤ 59 &&
    civil.second ≤ 60

/-- The point in time that a clock shows which is ahead of the common one by some seconds. On the
common clock, too, its year must be one that dates may have. -/
def ofCivil? (civil : Civil) (ahead : Int) : Option Timestamp :=
  let seconds := daysTo civil.year civil.month civil.day * 86400 + civil.hour * 3600 +
    civil.minute * 60 + min civil.second 59 - ahead
  if civil.isValid && isYear (dateAfter (seconds / 86400)).1 then
    some ⟨seconds, civil.nanosecond + (if civil.second = 60 then nanosecondsPerSecond else 0)⟩
  else none

/-- A number with leading zeros. -/
def padded (width value : Nat) : List Char :=
  let digits := Nat.toDigits 10 value
  List.replicate (width - digits.length) '0' ++ digits

/-- A year of four digits; others have a sign. -/
def yearText (year : Int) : List Char :=
  if 0 ≤ year ∧ year ≤ 9999 then padded 4 year.natAbs
  else (if year < 0 then '-' else '+') :: padded 4 year.natAbs

/-- A fraction of as many groups of three digits as it needs. -/
def fractionText (nanoseconds : Nat) : List Char :=
  if nanoseconds = 0 then []
  else if nanoseconds % 1000000 = 0 then '.' :: padded 3 (nanoseconds / 1000000)
  else if nanoseconds % 1000 = 0 then '.' :: padded 6 (nanoseconds / 1000)
  else '.' :: padded 9 nanoseconds

/-- The form of RFC 3339, on the common clock. -/
def render (time : Timestamp) : List Char :=
  let days := time.seconds / 86400
  let inDay := (time.seconds % 86400).toNat
  let (year, month, day) := dateAfter days
  let leap := nanosecondsPerSecond ≤ time.nanoseconds
  let second := inDay % 60 + (if leap then 1 else 0)
  yearText year ++ '-' :: padded 2 month ++ '-' :: padded 2 day ++ 'T' :: padded 2 (inDay / 3600) ++
    ':' :: padded 2 (inDay / 60 % 60) ++ ':' :: padded 2 second ++
    fractionText (time.nanoseconds % nanosecondsPerSecond) ++ ['Z']

def text (time : Timestamp) : String :=
  String.ofList (render time)

/-- Reads at least one and at most some digits. -/
def number? (least most : Nat) (text : List Char) : Option (Nat × List Char) :=
  let digits := (text.take most).takeWhile Char.isDigit
  if digits.length < least then none
  else some (Nat.ofDigitChars 10 digits 0, text.drop digits.length)

/-- Reads a character that must stand there. -/
def expect? (char : Char) (text : List Char) : Option (List Char) :=
  Text.after? [char] text

/-- Reads a fraction, if there is one; digits beyond the ninth are dropped. -/
def fraction? (text : List Char) : Option (Nat × List Char) :=
  match text with
  | '.' :: rest =>
    let digits := (rest.take 9).takeWhile Char.isDigit
    if digits.isEmpty then none
    else
      some (Nat.ofDigitChars 10 digits 0 * Nat.pow 10 (9 - digits.length), rest.dropWhile Char.isDigit)
  | _ => some (0, text)

/-- Reads the distance to the common clock: a letter, or a sign with hours and minutes. -/
def offset? (separate : List Char → Option (List Char)) (text : List Char) :
    Option (Int × List Char) := do
  match text with
  | 'Z' :: rest | 'z' :: rest => some (0, rest)
  | sign :: rest =>
    let negative ← if sign = '+' then some false
      else if sign = '-' ∨ sign.toNat = 0x2212 then some true else none
    let (hours, rest) ← number? 2 2 rest
    let (minutes, rest) ← number? 2 2 (← separate rest)
    if 59 < minutes ∨ 23 < hours then none
    let seconds : Int := hours * 3600 + minutes * 60
    return (if negative then -seconds else seconds, rest)
  | [] => none

/-- Reads the strict form of RFC 3339. -/
def ofRfc3339? (text : String) : Option Timestamp := do
  let (year, rest) ← number? 4 4 text.toList
  let (month, rest) ← number? 2 2 (← expect? '-' rest)
  let (day, rest) ← number? 2 2 (← expect? '-' rest)
  let rest ← match rest with
    | 'T' :: rest | 't' :: rest | ' ' :: rest => some rest
    | _ => none
  let (hour, rest) ← number? 2 2 rest
  let (minute, rest) ← number? 2 2 (← expect? ':' rest)
  let (second, rest) ← number? 2 2 (← expect? ':' rest)
  let (nanosecond, rest) ← fraction? rest
  let (ahead, rest) ← offset? (expect? ':') rest
  if rest.isEmpty then ofCivil? ⟨year, month, day, hour, minute, second, nanosecond⟩ ahead
  else none

/-- Reads a year, which may have a sign and then any number of digits. -/
def looseYear? (text : List Char) : Option (Int × List Char) :=
  match Text.trimStart text with
  | '-' :: rest => (number? 1 rest.length rest).map fun read => (-(read.1 : Int), read.2)
  | '+' :: rest => (number? 1 rest.length rest).map fun read => ((read.1 : Int), read.2)
  | text => (number? 1 4 text).map fun read => ((read.1 : Int), read.2)

/-- Reads a field of one or two digits after blanks. -/
def looseField? (text : List Char) : Option (Nat × List Char) :=
  number? 1 2 (Text.trimStart text)

/-- Reads a date and a time of day whose separators are passed over as the arguments say. -/
def looseCivil? (separate : Char → List Char → Option (List Char))
    (between : List Char → Option (List Char)) (text : List Char) :
    Option (Civil × List Char) := do
  let (year, rest) ← looseYear? text
  let (month, rest) ← looseField? (← separate '-' rest)
  let (day, rest) ← looseField? (← separate '-' rest)
  let (hour, rest) ← looseField? (← between rest)
  let (minute, rest) ← looseField? (← separate ':' rest)
  let (second, rest) ← looseField? (← separate ':' rest)
  return (⟨year, month, day, hour, minute, second, 0⟩, rest)

/-- Reads the loose form of RFC 3339 that documents may hold: blanks around the fields, short
fields, and offsets written in several ways. -/
def ofLooseText? (text : String) : Option Timestamp := do
  let separate (char : Char) (text : List Char) := expect? char (Text.trimStart text)
  let between (text : List Char) : Option (List Char) := match text with
    | 'T' :: rest | 't' :: rest | ' ' :: rest => some rest
    | _ => none
  let (civil, rest) ← looseCivil? separate between text.toList
  let (nanosecond, rest) ← fraction? rest
  let rest := Text.trimStart rest
  let (ahead, rest) ←
    if (rest.take 3).map Char.toUpper = ['U', 'T', 'C'] then some (0, rest.drop 3)
    else offset? (fun text => some (text.dropWhile fun char => char = ':' || Text.isBlank char)) rest
  if (Text.trimStart rest).isEmpty then ofCivil? { civil with nanosecond } ahead else none

/-- Reads a date and a time of day on the common clock, with a blank between them. -/
def ofPlainText? (text : String) : Option Timestamp := do
  let (civil, rest) ← looseCivil? expect? (fun text => some (Text.trimStart text)) text.toList
  if rest.isEmpty then ofCivil? civil 0 else none

end Timestamp

end StoreGate
