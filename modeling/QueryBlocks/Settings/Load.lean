import QueryBlocks.Settings.Basic
import QueryBlocks.Toml.Document

/-!
# Loading settings

Settings are read from a TOML document in which everything may be left out. A file that does
not exist stands for the standard settings. What cannot be read is told with the line it is on.
-/

set_option autoImplicit false

namespace QueryBlocks

open Json (Mismatch Member Read readString readOptional readRecord require)

inductive FileError where
  | missing
  | underFile
  | directory
  | notText
  | longName
deriving DecidableEq

def FileError.message : FileError → String
  | .missing => "No such file or directory (os error 2)"
  | .underFile => "Not a directory (os error 20)"
  | .directory => "Is a directory (os error 21)"
  | .notText => "stream did not contain valid UTF-8"
  | .longName => "File name too long (os error 36)"

inductive SettingsError where
  | file (cause : FileError)
  | notToml (source : String) (found : Toml.Fault)
  | mismatch (source : String) (span : Toml.Span) (cause : Mismatch)
  | fault (cause : SettingsFault)

namespace Settings

def floatText (value : Binary64) : String :=
  let text := value.toString
  if value.isFinite && !text.contains '.' then text ++ ".0" else text

def readCount : Read Nat
  | .integer value =>
    if Json.isWide value then .error (.wrongType (.integer value) "u64")
    else if value < 0 then .error (.wrongValue (.integer value) "u64")
    else .ok value.toNat
  | other => .error (.wrongType other "u64")

def readDictionary {α : Type} (read : Read α) : Read (Dictionary α)
  | .object members => do
    return .ofList (← members.mapM fun m => do
      return (m.1, ← Json.within (.member m.1) (read m.2)))
  | other => .error (.wrongType other "a map")

def firstItems (count : Nat) : Json → Json
  | .array items => .array (items.take count)
  | other => other

structure EndpointParts where
  url : Option String
  headers : Dictionary String

def readEndpoint (value : Json) : Except Mismatch Endpoint :=
  readRecord "EndpointConfig"
    [{ name := "url"
       read := fun v p => do return { p with url := some (← readString v) }
       defaulted := false },
     { name := "headers"
       read := fun v p => do return { p with headers := ← readDictionary readString v }
       defaulted := true }]
    ({ url := none, headers := .empty } : EndpointParts)
    (fun p => do return { url := ← require "url" p.url, headers := p.headers })
    (firstItems 2 value)

def readTransport (value : Json) : Except Mismatch TransportSettings :=
  readRecord "TransportConfig"
    [{ name := "timeout_secs"
       read := fun v p => do return { p with timeout := ← readCount v }
       defaulted := true },
     { name := "user_agent"
       read := fun v p => do return { p with userAgent := ← readString v }
       defaulted := true },
     { name := "headers"
       read := fun v p => do return { p with headers := ← readDictionary readString v }
       defaulted := true }]
    TransportSettings.standard .ok (firstItems 3 value)

def read : Read Settings :=
  readRecord "BlockGqlConfig"
    [{ name := "log_level"
       read := fun v p => do return { p with logLevel := ← readString v }
       defaulted := true },
     { name := "transport"
       read := fun v p => do return { p with transport := ← readTransport v }
       defaulted := true },
     { name := "endpoints"
       read := fun v p => do return { p with endpoints := ← readDictionary readEndpoint v }
       defaulted := true },
     { name := "default_endpoint"
       read := fun v p => do return { p with defaultEndpoint := some (← readString v) }
       defaulted := true }]
    standard .ok

def ofToml (text : String) : Except SettingsError Settings :=
  match Toml.parse text with
  | .error found => .error (.notToml text found)
  | .ok document =>
    match read document.toJson with
    | .error cause => .error (.mismatch text (document.spanAt cause.path) cause)
    | .ok settings =>
      match settings.fault? with
      | some cause => .error (.fault cause)
      | none => .ok settings

def ofFile : Except FileError String → Except SettingsError Settings
  | .ok text => ofToml text
  | .error .missing => .ok standard
  | .error .underFile => .ok standard
  | .error .longName => .ok standard
  | .error cause => .error (.file cause)

end Settings

namespace SettingsError

def reason : SettingsError → String
  | .file cause => cause.message
  | .notToml _ found => found.problem.message
  | .mismatch _ _ cause => cause.message Settings.floatText
  | .fault cause => cause.message

def report (error : SettingsError) : String :=
  match error with
  | .notToml source found => found.span.report source error.reason
  | .mismatch source span _ => span.report source error.reason
  | _ => error.reason

def message (error : SettingsError) : String :=
  match error with
  | .file _ => "failed to read config file: " ++ error.report
  | .fault _ => "invalid configuration: " ++ error.report
  | .notToml _ _ | .mismatch _ _ _ => "failed to parse config: " ++ error.report

end SettingsError

end QueryBlocks
