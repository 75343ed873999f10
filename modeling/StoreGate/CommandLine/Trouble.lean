import StoreGate.Action
import StoreGate.Text.Split
/-!
# Troubles

What a failed command tells its user: what it was doing, and what was behind that, each cause after
what it caused. Several causes are numbered. A command that breaks off tells nothing of this kind.
-/

namespace StoreGate.CommandLine

structure Trouble where
  /-- What the command was doing. -/
  context : String
  causes : List String
  deriving DecidableEq, Repr

namespace Trouble

/-- A failure with what is behind it. -/
def causesOf : Failure → List String
  | .inputOutput reason => [(Failure.inputOutput reason).message, reason]
  | failure => [failure.message]

def ofFailure (context : String) (failure : Failure) : Trouble :=
  ⟨context, causesOf failure⟩

/-- A text of several lines that begins with a mark; later lines are indented as far as the mark. -/
def hang (mark : List Char) (text : List Char) : List Char :=
  let indentation := '\n' :: List.replicate mark.length ' '
  mark ++ Text.join indentation (Text.fields '\n' text)

/-- A number, at the right of five places, before a cause. -/
def numberMark (number : Nat) : List Char :=
  let digits := Nat.toDigits 10 number
  List.replicate (5 - digits.length) ' ' ++ digits ++ [':', ' ']

/-- The causes from a number on, each on a line of its own. -/
def numbered (number : Nat) : List String → List Char
  | [] => []
  | cause :: rest => '\n' :: hang (numberMark number) cause.toList ++ numbered (number + 1) rest

def causeText : List String → List Char
  | [] => []
  | [cause] => "\n\nCaused by:\n".toList ++ hang [' ', ' ', ' ', ' '] cause.toList
  | causes => "\n\nCaused by:".toList ++ numbered 0 causes

def text (trouble : Trouble) : String :=
  "Error: " ++ trouble.context ++ String.ofList (causeText trouble.causes)

end Trouble

/-- Why a command has no text to print. -/
inductive Mishap where
  | trouble (met : Trouble)
  /-- A sum has more bits than there is room for. -/
  | overflow
  deriving DecidableEq, Repr

/-- What has become of a command that was stopped in doing something. -/
def Mishap.ofHalt (context : String) : Halt → Mishap
  | .failure failure => .trouble (.ofFailure context failure)
  | .unfinished => .trouble ⟨context, ["there are too many pages"]⟩
  | .overflow => .overflow

end StoreGate.CommandLine
