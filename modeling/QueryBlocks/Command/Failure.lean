import QueryBlocks.Block.Document
import QueryBlocks.Schema.Cache
import QueryBlocks.Settings.Load

/-!
# Failures of commands

What keeps a command from being carried out, from the outside in: what was tried, and why it
failed.
-/

set_option autoImplicit false

namespace QueryBlocks.Command

inductive Failure where
  | settings (file : String) (cause : SettingsError)
  | noEndpoint
  | unreadable (file : String) (cause : FileError)
  | badTree (file : String) (cause : LoadError)
  | introspection (endpoint : String) (cause : CacheError)
  | unknownType (name endpoint : String)
  | noRoot (endpoint : String) (kind : OperationKind)
  | request (endpoint : String) (cause : TransportError)
  | reported (endpoint : String) (count : Nat)

def settingsText (cause : SettingsError) : String :=
  match cause with
  | .fault _ => cause.message
  | _ => cause.message ++ ": " ++ cause.report

def Failure.message : Failure → String
  | .settings file cause => "Failed to load config from " ++ file ++ ": " ++ settingsText cause
  | .noEndpoint =>
    "No endpoint given. Pass a URL or endpoint name, or set default_endpoint in the config"
  | .unreadable file cause => "Cannot read " ++ file ++ ": " ++ cause.message
  | .badTree file cause => "Invalid block tree in " ++ file ++ ": " ++ cause.message
  | .introspection endpoint cause =>
    "Failed to introspect " ++ endpoint ++ ": " ++ cause.message
  | .unknownType name endpoint => "Type `" ++ name ++ "` does not exist at " ++ endpoint
  | .noRoot endpoint kind => endpoint ++ " has no " ++ kind.keyword ++ " root"
  | .request endpoint cause => "Request to " ++ endpoint ++ " failed: " ++ cause.message
  | .reported endpoint count => endpoint ++ " returned " ++ toString count ++ " error(s)"

end QueryBlocks.Command
