import StoreGate.Failure
/-!
# Actions on a world

An action changes a world and gives a value, or stops. What it did to the world before it stopped
stays done. Loops over data that a service hands out run under a budget, and an action that uses up
its budget is unfinished: it has neither succeeded nor failed. Numbers are checked when they are
added up, and a sum that its bits cannot hold ends the whole program, so nothing recovers from it.
-/

namespace StoreGate

/-- Why an action gives no value. -/
inductive Halt where
  | failure (cause : Failure)
  /-- The budget of a loop is used up. -/
  | unfinished
  /-- A sum has more bits than there is room for, and the program breaks off. -/
  | overflow
  deriving DecidableEq, Repr

/-- A computation that changes a world and may stop. -/
abbrev Action (World α : Type) := ExceptT Halt (StateM World) α

namespace Action

variable {World α : Type}

def fail (cause : Failure) : Action World α :=
  throw (.failure cause)

/-- The result of an action that ends as an outcome does. -/
def resultOf (outcome : Outcome α) : Except Halt α :=
  outcome.mapError Halt.failure

/-- The outcome of a computation that does not touch the world. -/
def ofOutcome : Outcome α → Action World α
  | .ok value => pure value
  | .error cause => fail cause

/-- The value of an action, and the world after it. -/
def runOn (action : Action World α) (world : World) : Except Halt α × World :=
  (ExceptT.run action).run world

/-- An action on a part of a larger world. -/
def onPart {Whole : Type} (part : Whole → World) (replace : World → Whole → Whole)
    (action : Action World α) : Action Whole α :=
  ExceptT.mk fun whole =>
    let (result, world) := action.runOn (part whole)
    (result, replace world whole)

/-- Performs an action for every member of a list and joins the lists that they give. -/
def collect {β : Type} (visit : β → Action World (List α)) : List β → Action World (List α)
  | [] => pure []
  | first :: rest => do
    let found ← visit first
    let others ← collect visit rest
    return found ++ others

/-- Reads pages one after another, as long as each names the next one, and joins what a visit to each
of them gives. -/
def overPages {Page : Type} (fetch : Option String → Action World Page)
    (next? : Page → Option String) (visit : Page → Action World (List α)) :
    (budget : Nat) → (token : Option String) → Action World (List α)
  | 0, _ => throw .unfinished
  | budget + 1, token => do
    let page ← fetch token
    let found ← visit page
    match next? page with
    | none => return found
    | some token =>
      let others ← overPages fetch next? visit budget (some token)
      return found ++ others

/-- Reads pages one after another until one of them holds what is wanted. -/
def searchPages {Page : Type} (fetch : Option String → Action World Page)
    (next? : Page → Option String) (found? : Page → Option α) :
    (budget : Nat) → (token : Option String) → Action World (Option α)
  | 0, _ => throw .unfinished
  | budget + 1, token => do
    let page ← fetch token
    match found? page, next? page with
    | some value, _ => return some value
    | none, none => return none
    | none, some token => searchPages fetch next? found? budget (some token)

end Action

end StoreGate
