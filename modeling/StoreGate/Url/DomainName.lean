import StoreGate.Text.Composition
import StoreGate.Text.Direction
import StoreGate.Text.Joining
import StoreGate.Text.Split
import StoreGate.Text.Utf8
import StoreGate.Url.DomainTable
import StoreGate.Url.Punycode
/-!
# Domain names

Names are mapped to one form for all spellings of a name, and their labels are then checked: a label
begins with no mark, joiners stand only where they change the shape of letters, and the labels of a
name with text from right to left have one direction each. Labels beyond ASCII are written in
Punycode behind a mark.
-/

namespace StoreGate.Url

/-- Characters that no domain name of the web holds. -/
def isForbiddenInDomain (char : Char) : Bool :=
  char.toNat ≤ 0x20 || char.toNat = 0x7f || "%#/:<>?@[\\]^|".toList.contains char

/-- Whether a span holds a code point. -/
def spanHolds (code : Nat) (span : Nat × Nat × String) : Bool :=
  span.1 ≤ code && code ≤ span.2.1

/-- What a character becomes in a name, if a name may hold it. -/
def mapChar? (char : Char) : Option (List Char) :=
  let code := char.toNat
  if code < 0x80 then some [char.toLower]
  else if Text.inRanges refusedRanges char then none
  else if Text.inRanges droppedRanges char then some []
  else
    match letterSpans.find? (spanHolds code), wordSpans.find? (spanHolds code) with
    | some span, _ => (span.2.2.toList[code - span.1]?).map ([·])
    | none, some span => (Text.fields ' ' span.2.2.toList)[code - span.1]?
    | none, none => some [char]

/-- The one form of all spellings of a name. -/
def mapName? (name : List Char) : Option (List Char) :=
  (name.mapM mapChar?).map fun parts => Text.compose parts.flatten

def isAscii (text : List Char) : Bool :=
  text.all (·.toNat < 0x80)

/-- What labels in Punycode begin with. -/
def punycodeMark : List Char := ['x', 'n', '-', '-']

/-- The longest label that is written in Punycode. -/
def longestEncoded : Nat := 1000

/-- The longest text that is read as Punycode. -/
def longestDecoded : Nat := 2000

/-- A label as it is read and as it is written. -/
structure Label where
  text : List Char
  ascii : List Char

namespace Label

/-- The label that a text in Punycode stands for. It must be one that is written so. -/
def ofPunycode? (encoded : List Char) : Option Label := do
  if longestDecoded < encoded.length then none
  let text ← Punycode.decode? encoded
  if isAscii text || mapName? text ≠ some text then none
  return ⟨text, punycodeMark ++ encoded⟩

/-- The label of a part of a name in its one form. -/
def ofMapped? (part : List Char) : Option Label :=
  match Text.after? punycodeMark part with
  | some encoded => if isAscii encoded then ofPunycode? encoded else none
  | none =>
    if isAscii part then some ⟨part, part⟩
    else if longestEncoded < part.length then none
    else some ⟨part, punycodeMark ++ Punycode.encode part⟩

/-- Whether every joiner stands behind a mark that takes a vowel away, or, if it keeps letters apart,
between letters that would join. The text before is given in reverse. -/
def joinersStand (before : List Char) : List Char → Bool
  | [] => true
  | char :: rest =>
    let isBehindKiller := before.head?.any (Text.combiningClass · = Text.vowelKillerClass)
    let isBetweenLetters :=
      ((before.dropWhile Text.isTransparent).head?.any Text.joinsNext) &&
        ((rest.dropWhile Text.isTransparent).head?.any Text.joinsPrevious)
    let stands :=
      if char.toNat = 0x200c then isBehindKiller || isBetweenLetters
      else if char.toNat = 0x200d then isBehindKiller
      else true
    stands && joinersStand (char :: before) rest

/-- Whether the characters of the label may stand where they do. -/
def isValid (label : Label) : Bool :=
  !label.text.head?.any Text.isMark && joinersStand [] label.text

/-- Whether the label has text that runs from right to left. -/
def turns (label : Label) : Bool :=
  label.text.any fun char => (Text.Direction.ofChar char).turns

/-- Whether the label has one direction. It runs as its first letter does, ends in a letter or a
number, apart from marks, and has numbers of one kind. -/
def hasOneDirection (label : Label) : Bool :=
  let directions := label.text.map Text.Direction.ofChar
  let last? := directions.reverse.find? (· ≠ .nonspacingMark)
  let isPlain (direction : Text.Direction) : Bool :=
    [.europeanNumber, .europeanSeparator, .europeanTerminator, .commonSeparator, .otherNeutral,
      .boundaryNeutral, .nonspacingMark].contains direction
  match directions.head? with
  | none => true
  | some .leftToRight =>
    directions.all (fun direction => direction = .leftToRight || isPlain direction) &&
      last?.any [.leftToRight, .europeanNumber].contains
  | some .rightToLeft | some .arabicLetter =>
    directions.all (fun direction => direction.turns || isPlain direction) &&
      last?.any [.rightToLeft, .arabicLetter, .europeanNumber, .arabicNumber].contains &&
      !(directions.contains .europeanNumber && directions.contains .arabicNumber)
  | some _ => false

end Label

/-- The ASCII form of a domain name that is given in UTF-8. -/
def asciiDomain? (bytes : List UInt8) : Option (List Char) := do
  let name ← Utf8.decode? bytes
  let mapped ← mapName? name.toList
  if mapped.any isForbiddenInDomain then none
  let labels ← (Text.fields '.' mapped).mapM Label.ofMapped?
  if !labels.all Label.isValid then none
  if labels.any Label.turns && !labels.all Label.hasOneDirection then none
  return Text.join ['.'] (labels.map Label.ascii)

end StoreGate.Url
