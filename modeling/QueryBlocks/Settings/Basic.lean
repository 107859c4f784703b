import QueryBlocks.Data.Dictionary
import QueryBlocks.Text.Blank
import QueryBlocks.Toml.Text
import QueryBlocks.Transport.Http

/-!
# Settings

Named endpoints with their header fields, the settings of the transport they share, and the
endpoint that is meant when none is named.
-/

set_option autoImplicit false

namespace QueryBlocks

structure Endpoint where
  url : String
  headers : Dictionary String

structure TransportSettings where
  timeout : Nat
  userAgent : String
  headers : Dictionary String

structure Settings where
  logLevel : String
  transport : TransportSettings
  endpoints : Dictionary Endpoint
  defaultEndpoint : Option String

namespace TransportSettings

def standard : TransportSettings := { timeout := 30, userAgent := "blockgql", headers := .empty }

def toHttp (settings : TransportSettings) : Http.Settings :=
  { userAgent := settings.userAgent, headers := settings.headers.entries }

end TransportSettings

inductive SettingsFault where
  | noTimeout
  | noUserAgent
  | badUrl (endpoint : String) (cause : UrlError)
  | notWeb (endpoint : String)
  | unknownDefault (endpoint : String)
deriving DecidableEq

def SettingsFault.message : SettingsFault → String
  | .noTimeout => "transport.timeout_secs must be > 0"
  | .noUserAgent => "transport.user_agent must not be empty"
  | .badUrl endpoint cause =>
    "endpoints." ++ endpoint ++ ".url is not a valid URL: " ++ cause.message
  | .notWeb endpoint => "endpoints." ++ endpoint ++ ".url must use http or https"
  | .unknownDefault endpoint =>
    "default_endpoint `" ++ endpoint ++ "` is not a configured endpoint"

namespace Settings

def standard : Settings :=
  { logLevel := "info", transport := .standard, endpoints := .empty, defaultEndpoint := none }

def endpointFault? (entry : String × Endpoint) : Option SettingsFault :=
  match Url.parse entry.2.url with
  | .error cause => some (.badUrl entry.1 cause)
  | .ok (.other _) => some (.notWeb entry.1)
  | .ok (.web _) => none

def defaultFault? (settings : Settings) : Option SettingsFault :=
  match settings.defaultEndpoint with
  | none => none
  | some name => if settings.endpoints.contains name then none else some (.unknownDefault name)

def fault? (settings : Settings) : Option SettingsFault :=
  if settings.transport.timeout = 0 then some .noTimeout
  else if Text.allBlank settings.transport.userAgent then some .noUserAgent
  else
    settings.endpoints.entries.findSome? endpointFault? <|> settings.defaultFault?

def resolveName (settings : Settings) (nameOrUrl : String) : String :=
  match settings.endpoints.find? nameOrUrl with
  | some endpoint => endpoint.url
  | none => nameOrUrl

def resolve (settings : Settings) : Option String → Option String
  | some nameOrUrl => some (settings.resolveName nameOrUrl)
  | none => do
    let endpoint ← settings.endpoints.find? (← settings.defaultEndpoint)
    return endpoint.url

def headerLe (a b : String × String) : Bool :=
  Text.precedes a.1 b.1 || (a.1 == b.1 && !Text.precedes b.2 a.2)

/-- The header fields of all endpoints with a URL, sorted by name and value. -/
def headersFor (settings : Settings) (url : String) : Headers :=
  ((settings.endpoints.entries.filter fun entry => entry.2.url == url).flatMap
    fun entry => entry.2.headers.entries).mergeSort headerLe

def textLine (entry : String × String) : String :=
  Toml.keyText entry.1 ++ " = " ++ Toml.textValue entry.2 ++ "\n"

def textLines (headers : Dictionary String) : String := String.join (headers.entries.map textLine)

def endpointSections (entry : String × Endpoint) : List String :=
  let path := "endpoints." ++ Toml.keyText entry.1
  ["[" ++ path ++ "]\n" ++ textLine ("url", entry.2.url),
    "[" ++ path ++ ".headers]\n" ++ textLines entry.2.headers]

def toToml (settings : Settings) : String :=
  let top := textLine ("log_level", settings.logLevel) ++
    settings.defaultEndpoint.elim "" fun name => textLine ("default_endpoint", name)
  let transport := "[transport]\ntimeout_secs = " ++ toString settings.transport.timeout ++ "\n" ++
    textLine ("user_agent", settings.transport.userAgent)
  let endpoints := match settings.endpoints.entries with
    | [] => ["[endpoints]\n"]
    | entries => entries.flatMap endpointSections
  "\n".intercalate
    ([top, transport, "[transport.headers]\n" ++ textLines settings.transport.headers] ++
      endpoints)

end Settings

end QueryBlocks
