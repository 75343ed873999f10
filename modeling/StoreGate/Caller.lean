import StoreGate.Action
import StoreGate.Cache
import StoreGate.Item
/-!
# Callers and sessions

A caller brings a credential and may give up at any time. A session is the memory that stores keep
between calls, beside the world that their services live in; a clock reads time off that world.
-/

namespace StoreGate

/-- Who a call is made for. -/
structure Caller (World : Type) where
  /-- The credential of the account; the store's own one counts when it is absent. -/
  apiKey : Option String
  /-- The address of the person at the end of the line. -/
  clientIp : Option String
  /-- Whether the caller has given up by now. -/
  isCancelled : World → Bool

namespace Caller

variable {World : Type}

/-- The credential to use, which must not be empty. -/
def apiKeyOr (caller : Caller World) (fallback : Option String) : Outcome String :=
  match caller.apiKey <|> fallback with
  | some key => if key.isEmpty then .error (.invalidInput "Missing store api key") else .ok key
  | none => .error (.invalidInput "Missing store api key")

/-- Stops with the given words if the caller has given up. -/
def check (caller : Caller World) (words : String) : Action World Unit := do
  if caller.isCancelled (← get) then Action.fail (.cancelled words)

/-- Stops if the caller has given up. -/
def ensureActive (caller : Caller World) : Action World Unit :=
  caller.check "request cancelled"

end Caller

/-- How time is read off a world, and how it passes. -/
structure Clock (World : Type) where
  now : World → Instant
  /-- The time on the wall. -/
  time : World → Timestamp
  pause : Duration → World → World

/-- What stores remember between calls, and the world of their services. -/
structure Session (World : Type) where
  listings : Cache (List ItemSummary)
  world : World

namespace Session

variable {World α : Type}

/-- An action on the world alone; what stores remember stays as it is. -/
def outside (action : Action World α) : Action (Session World) α :=
  action.onPart Session.world fun world session => { session with world }

end Session

end StoreGate
