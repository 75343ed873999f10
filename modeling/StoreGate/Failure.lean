import StoreGate.Store
/-!
# Why an operation fails

Each failure names its cause. Its message, the HTTP status that reports it, and whether a caller may
carry on in spite of it follow from the cause alone.
-/

namespace StoreGate

inductive Failure where
  /-- The requested content is absent. -/
  | notFound (what : String)
  /-- The store does not offer the operation. -/
  | unsupported (store : Store) (operation : String)
  /-- A malformed link or token. -/
  | invalidLink (reason : String)
  /-- A credential, a signature or a lifetime that does not hold. -/
  | unauthorized (reason : String)
  | cryptographic (reason : String)
  /-- A task did not finish within the attempts allowed. -/
  | taskIncomplete (reason : String)
  /-- The caller gave up. -/
  | cancelled (reason : String)
  /-- The service behind a store answered something unexpected. -/
  | service (store : Store) (reason : String)
  /-- A listing that cannot be walked to its end. -/
  | corruptListing (reason : String)
  | network (reason : String)
  | invalidInput (reason : String)
  | serialization (reason : String)
  | alreadyExists (what : String)
  | inputOutput (reason : String)
  deriving DecidableEq, Inhabited, Repr

namespace Failure

def message : Failure → String
  | .notFound what => "Not found: " ++ what
  | .unsupported store operation => store.name ++ ": " ++ operation ++ " is not supported"
  | .invalidLink reason => "Invalid link: " ++ reason
  | .unauthorized reason => "Unauthorized: " ++ reason
  | .cryptographic reason => "Cryptographic error: " ++ reason
  | .taskIncomplete reason => "Task incomplete: " ++ reason
  | .cancelled reason => "Cancelled: " ++ reason
  | .service store reason => store.name ++ ": upstream error: " ++ reason
  | .corruptListing reason => "Corrupt listing: " ++ reason
  | .network reason => "Network error: " ++ reason
  | .invalidInput reason => "Invalid input: " ++ reason
  | .serialization reason => "Serialization error: " ++ reason
  | .alreadyExists what => "Already exists: " ++ what
  | .inputOutput reason => "I/O error: " ++ reason

/-- Whether the caller may report an unfinished item instead. -/
def isRecoverable : Failure → Bool
  | .taskIncomplete _ => true
  | _ => false

/-- The HTTP status that reports the failure. -/
def status : Failure → Nat
  | .invalidLink _ | .invalidInput _ => 400
  | .unauthorized _ => 401
  | .notFound _ => 404
  | .unsupported .. => 405
  | .alreadyExists _ => 409
  | .cancelled _ => 408
  | .service .. | .network _ => 502
  | .taskIncomplete _ => 504
  | .cryptographic _ | .corruptListing _ | .serialization _ | .inputOutput _ => 500

/-- The failure of text that is no JSON document of the expected shape. -/
def malformedJson : Failure :=
  .serialization "malformed JSON"

end Failure

/-- The result of an operation that may fail. -/
abbrev Outcome (α : Type) := Except Failure α

end StoreGate
