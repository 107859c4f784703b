import QueryBlocks.Json.Basic

/-!
# Failures of a transport

A transport takes a document to an endpoint and brings back the decoded body of the answer.
-/

set_option autoImplicit false

namespace QueryBlocks

inductive TransportError where
  | request (endpoint message : String)
  | status (endpoint : String) (code : Nat)
  | body (endpoint message : String)
  | configuration (message : String)
deriving DecidableEq

def TransportError.message : TransportError → String
  | .request endpoint message => "request to " ++ endpoint ++ " failed: " ++ message
  | .status endpoint code => endpoint ++ " answered HTTP " ++ toString code
  | .body endpoint message => "invalid response body from " ++ endpoint ++ ": " ++ message
  | .configuration message => "transport configuration error: " ++ message

abbrev Answer := Except TransportError Json

abbrev Headers := List (String × String)

end QueryBlocks
