import QueryBlocks.Json.Printer
import QueryBlocks.Json.Reader
import QueryBlocks.Text.Base64
import QueryBlocks.Transport.Error
import QueryBlocks.Url.Basic

/-!
# Sending over HTTP

A document is posted as JSON. An answer counts as a success when its status is 2xx and its
text is JSON; a failure that reports errors in its body is passed on as such a body.
-/

set_option autoImplicit false

namespace QueryBlocks.Http

structure Settings where
  userAgent : String
  headers : Headers

structure Request where
  url : WebUrl
  headers : Headers
  body : Json

inductive Reply where
  | response (status : Nat) (text : String)
  | dropped

def envelope (document : String) : Json :=
  .ofMembers [("query", .string document), ("variables", .object [])]

def isTokenChar (c : Char) : Bool :=
  c.isAlphanum || c ∈
    ['!', '#', '$', '%', '&', '\x27', '*', '+', '-', '.', '^', '_', '\x60', '|', '~']

def isHeaderName (name : String) : Bool := !name.isEmpty && name.toList.all isTokenChar

def isHeaderValue (value : String) : Bool :=
  value.toList.all fun c => c = '\t' || (0x20 ≤ c.toNat && c.toNat ≠ 0x7F)

def isHeader (header : String × String) : Bool := isHeaderName header.1 && isHeaderValue header.2

def credentials? (url : WebUrl) : Option (String × String) := do
  let user ← Text.ofBytes? (Text.percentDecode url.user.toList)
  let password := (Text.ofBytes? (Text.percentDecode url.password.toList)).getD ""
  if user = "" ∧ password = "" then none else some (user, password)

def basicAuthorization (user password : String) : String × String :=
  ("Authorization",
    "Basic " ++ String.ofList (Text.Base64.encode (Text.bytes (user ++ ":" ++ password))))

/-- Credentials are sent in a header field and not as part of the URL. -/
def authorize (url : WebUrl) : WebUrl × Headers :=
  match credentials? url with
  | some (user, password) =>
    ({ url with user := "", password := "" }, [basicAuthorization user password])
  | none => (url, [])

def requestHeaders (settings : Settings) (own : Headers) : Headers :=
  [("User-Agent", settings.userAgent), ("Accept", "application/json"),
    ("Content-Type", "application/json")] ++ settings.headers ++ own

def request? (settings : Settings) (endpoint document : String) (own : Headers) :
    Option Request :=
  match Url.parse endpoint with
  | .ok (.web url) =>
    let (url, authorization) := authorize url
    let headers := authorization ++ requestHeaders settings own
    if headers.all isHeader then some { url, headers, body := envelope document } else none
  | _ => none

def notBuilt (endpoint : String) : TransportError := .request endpoint "builder error"

def notAnswered (endpoint : String) (request : Request) : TransportError :=
  .request endpoint ("error sending request for url (" ++ request.url.text ++ ")")

def isSuccess (status : Nat) : Bool := 200 ≤ status && status ≤ 299

def withoutMark (text : String) : String :=
  match text.toList with
  | c :: rest => if c.toNat = 0xFEFF then String.ofList rest else text
  | [] => text

def receive (endpoint : String) (status : Nat) (text : String) : Answer :=
  match Json.parse (withoutMark text) with
  | .ok body =>
    if isSuccess status || (body.get? "errors").isSome then .ok body
    else .error (.status endpoint status)
  | .error cause =>
    if isSuccess status then .error (.body endpoint cause.message)
    else .error (.status endpoint status)

def answerOf (endpoint : String) (request : Request) : Reply → Answer
  | .response status text => receive endpoint status text
  | .dropped => .error (notAnswered endpoint request)

def plainValue (value : String) : String :=
  let isMargin (c : Char) : Bool := c == ' ' || c == '\t'
  let trimmed := (value.toList.dropWhile isMargin).reverse.dropWhile isMargin
  String.ofList trimmed.reverse

/-- Header fields as a peer sees them: names in lower case, sorted, equal names in order. -/
def seenHeaders (headers : Headers) : Headers :=
  (headers.map fun h => (h.1.map Char.toLower, plainValue h.2)).mergeSort
    fun a b => !Text.precedes b.1 a.1

end QueryBlocks.Http
