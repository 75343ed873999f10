import StoreGate.Text.CaseTable
import StoreGate.Text.Ranges
/-!
# Lower case

The lowercase form of a text by the Unicode rules that depend on no language. A capital sigma is
written in its final form at the end of a word, and a dotted capital I becomes two characters; every
other character has a form of its own.
-/

namespace StoreGate.Text

/-- Whether a character has case. -/
def isCased (char : Char) : Bool :=
  inRanges casedRanges char

/-- Whether a character is passed over in the search for a cased neighbour. -/
def isIgnorable (char : Char) : Bool :=
  inRanges ignorableRanges char

/-- The lowercase form of a code point beyond ASCII that has one of a single character. -/
def lowerCaseCode (code : Nat) : Nat :=
  match lowerCaseRuns.find? fun run =>
      run.1 ≤ code && code ≤ run.2.1 && (code - run.1) % run.2.2.1 = 0 with
  | some run => ((code : Int) + run.2.2.2).toNat
  | none => code

/-- The lowercase form of a character by itself. -/
def lowerCaseChar (char : Char) : List Char :=
  if char.toNat < 0x80 then [char.toLower]
  else if char.toNat = 0x130 then ['i', Char.ofNat 0x307]
  else [Char.ofNat (lowerCaseCode char.toNat)]

/-- Whether the nearest character that is not passed over has case. -/
def meetsCased (neighbours : List Char) : Bool :=
  match neighbours.dropWhile isIgnorable with
  | [] => false
  | char :: _ => isCased char

/-- The lowercase form of a text, given what stands before it in reverse. -/
def lowerCaseAfter (before : List Char) : List Char → List Char
  | [] => []
  | char :: rest =>
    let form :=
      if char.toNat = 0x3a3 then
        [Char.ofNat (if meetsCased before && !meetsCased rest then 0x3c2 else 0x3c3)]
      else lowerCaseChar char
    form ++ lowerCaseAfter (char :: before) rest

def lowerCase (text : List Char) : List Char :=
  lowerCaseAfter [] text

end StoreGate.Text
