import StoreGate.Text.MarkTable
import StoreGate.Text.Ranges
/-!
# Marks on characters

Marks join the character before them. Several marks on one character are ordered by their combining
classes; a character of class zero is one that others are placed around.
-/

namespace StoreGate.Text

/-- Whether a character is a mark that takes no place of its own. -/
def isNonspacing (char : Char) : Bool :=
  inRanges nonspacingRanges char

def isMark (char : Char) : Bool :=
  isNonspacing char || inRanges spacingRanges char

def combiningClass (char : Char) : Nat :=
  match combiningClasses.find? fun entry => inRanges entry.2 char with
  | some entry => entry.1
  | none => 0

/-- The class of the marks that take away the vowel of the letter before them. -/
def vowelKillerClass : Nat := 9

end StoreGate.Text
