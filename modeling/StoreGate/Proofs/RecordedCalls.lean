import StoreGate.Proofs.Actions
/-!
# Calls that are counted and put down

Something may be kept beside a world that no action looks at: the number of times that an action has
been performed, or what has been asked for, in order.
-/

namespace StoreGate

/-- A world, and what has been asked for in it. -/
abbrev Recorded (World Request : Type) := World × List Request

namespace Action

variable {World α : Type}

/-- Performs an action and counts how often, in a number beside the world. -/
def counted (action : Action World α) : Action (World × Nat) α := do
  modify fun (world, count) => (world, count + 1)
  action.onPart Prod.fst fun world (_, count) => (world, count)

theorem runOn_counted (action : Action World α) (world : World) (count : Nat) :
    action.counted.runOn (world, count) =
      ((action.runOn world).1, ((action.runOn world).2, count + 1)) :=
  rfl

/-- Performs an action, which leaves what is kept beside the world as it is. -/
def beside {Other : Type} (action : Action World α) : Action (World × Other) α :=
  action.onPart Prod.fst fun world whole => (world, whole.2)

/-- Performs an action and puts down beside the world what it is asked for. -/
def recorded {Request : Type} (action : Action World α) (request : Request) :
    Action (Recorded World Request) α := do
  modify fun (world, requests) => (world, requests ++ [request])
  action.onPart Prod.fst fun world (_, requests) => (world, requests)

theorem runOn_recorded {Request : Type} (action : Action World α) (request : Request)
    (world : World) (requests : List Request) :
    (action.recorded request).runOn (world, requests) =
      ((action.runOn world).1, ((action.runOn world).2, requests ++ [request])) :=
  rfl

theorem Gives.recorded {Request : Type} {steady : World → Prop} {action : Action World α}
    {result : Except Halt α} (gives : action.Gives steady result) (request : Request) :
    (action.recorded request).Gives (fun whole => steady whole.1) result :=
  fun whole isSteady => gives whole.1 isSteady

end Action

/-- The clock of a world that has something beside it. -/
def Clock.beside {World : Type} (Other : Type) (clock : Clock World) : Clock (World × Other) :=
  ⟨fun whole => clock.now whole.1, fun whole => clock.time whole.1,
    fun length whole => (clock.pause length whole.1, whole.2)⟩

end StoreGate
