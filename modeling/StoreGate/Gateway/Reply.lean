import StoreGate.Failure
import StoreGate.Http.Message
import StoreGate.Json.Printer
import StoreGate.Text.Utf8
/-!
# Replies of the gateway

Documents and failures as responses. A failure within the gateway itself is not explained to
clients; one of a service behind it is.
-/

namespace StoreGate

namespace Http.Response

/-- A document as a response. -/
def ofJson (status : Nat) (document : Json) : Response :=
  ⟨status, [("content-type", "application/json")], Utf8.encode document.text⟩

/-- A plain text as a response. -/
def ofText (status : Nat) (text : String) : Response :=
  ⟨status, [("content-type", "text/plain; charset=utf-8")], Utf8.encode text⟩

/-- The response with the length of its body. -/
def withLength (response : Response) : Response :=
  { response with
    headers := response.headers ++ [("content-length", toString response.body.length)] }

end Http.Response

namespace Failure

/-- Whether a failure is the gateway's own, whose cause is kept from clients. -/
def isInternal (failure : Failure) : Bool :=
  500 ≤ failure.status && failure.status ≠ 502

/-- What clients are told. -/
def publicMessage (failure : Failure) : String :=
  if failure.isInternal then "Internal server error" else failure.message

def response (failure : Failure) : Http.Response :=
  .ofJson failure.status (.object [("error", .string failure.publicMessage)])

end Failure

end StoreGate
