import StoreGate.Caller
/-!
# Waiting for a task

A task of a service is fetched again and again until it has ended, the attempts are used up, or the
caller gives up. Whatever the outcome, the last task seen is handed back with it.
-/

namespace StoreGate

inductive TaskPhase where
  /-- Waiting or running. -/
  | pending
  | complete
  /-- Given up by the service. -/
  | failed
  deriving DecidableEq, Repr

namespace TaskPhase

/-- Whether the task will not change any more. -/
def isTerminal : TaskPhase → Bool
  | .pending => false
  | .complete | .failed => true

end TaskPhase

/-- How long to wait. -/
structure PollPolicy where
  /-- Fetches after the first one. -/
  retries : Nat
  /-- The pause between two fetches. -/
  interval : Duration
  deriving DecidableEq, Repr

namespace PollPolicy

/-- Three retries, five seconds apart. -/
def standard : PollPolicy := ⟨3, Duration.ofSeconds 5⟩

end PollPolicy

/-- A wait that did not end in a complete task. -/
structure PollFailure (α : Type) where
  /-- The last task seen. -/
  last : Option α
  halt : Halt

namespace Poll

variable {World α : Type}

def cancelled : Halt :=
  .failure (.cancelled "task polling cancelled")

/-- The failure of a task that is still pending after all retries. -/
def exhausted (retries : Nat) : Halt :=
  .failure (.taskIncomplete ("task still pending after " ++ toString retries ++ " retries"))

def failedByService : Halt :=
  .failure (.taskIncomplete "task failed upstream")

/-- Fetches, with the given number of retries left. -/
def attempts (fetch : Action World α) (phase : α → TaskPhase) (isCancelled : World → Bool)
    (clock : Clock World) (policy : PollPolicy) :
    (left : Nat) → (last : Option α) → StateM World (Except (PollFailure α) α)
  | left, last => do
    if isCancelled (← get) then return .error ⟨last, cancelled⟩
    match ← ExceptT.run fetch with
    | .error halt => return .error ⟨last, halt⟩
    | .ok task =>
      match phase task with
      | .complete => return .ok task
      | .failed => return .error ⟨some task, failedByService⟩
      | .pending =>
        match left with
        | 0 => return .error ⟨some task, exhausted policy.retries⟩
        | left + 1 =>
          if isCancelled (← get) then return .error ⟨some task, cancelled⟩
          modify (clock.pause policy.interval)
          attempts fetch phase isCancelled clock policy left (some task)

/-- Waits for a task to complete. -/
def wait (fetch : Action World α) (phase : α → TaskPhase) (isCancelled : World → Bool)
    (clock : Clock World) (policy : PollPolicy) : StateM World (Except (PollFailure α) α) :=
  attempts fetch phase isCancelled clock policy policy.retries none

end Poll

end StoreGate
