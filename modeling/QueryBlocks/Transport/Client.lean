import QueryBlocks.Json.Printer
import QueryBlocks.Transport.Error

/-!
# The outcome of an operation

The body that an endpoint answers with carries data or errors; errors win.
-/

set_option autoImplicit false

namespace QueryBlocks

inductive OperationOutcome where
  | data (value : Json)
  | errors (messages : List String)

namespace OperationOutcome

def errorText (entry : Json) : String :=
  match entry.get? "message" with
  | some (.string message) => message
  | _ => entry.compact

/-- The outcome in a body; an empty list of errors counts as none. -/
def ofBody (endpoint : String) (body : Json) : Except TransportError OperationOutcome :=
  match body.get? "errors" with
  | some (.array (first :: rest)) => .ok (.errors ((first :: rest).map errorText))
  | _ =>
    match body.get? "data" with
    | some value => .ok (.data value)
    | none => .error (.body endpoint "response has neither data nor errors")

def ofAnswer (endpoint : String) (answer : Answer) : Except TransportError OperationOutcome := do
  ofBody endpoint (← answer)

end OperationOutcome

end QueryBlocks
