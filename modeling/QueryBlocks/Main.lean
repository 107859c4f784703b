import QueryBlocks.Command.Session

/-!
# The program

Reads the files that the arguments name, carries the command out and writes what it leaves.
There is no network here, so every request is dropped.
-/

set_option autoImplicit false

namespace QueryBlocks

def fileError : IO.Error → FileError
  | .inappropriateType _ code _ => if code = 21 then .directory else .underFile
  | .invalidArgument .. => .longName
  | _ => .missing

def readText (path : String) : IO (Except FileError String) := do
  try
    match String.fromUTF8? (← IO.FS.readBinFile path) with
    | some text => return .ok text
    | none => return .error .notText
  catch cause => return .error (fileError cause)

def standardFile : IO String := do
  return (← IO.getEnv "HOME").getD "" ++ "/.blockgql/config.toml"

def readFiles (arguments : List String) (settings : Option String) (standard : String) :
    IO (List (String × Except FileError String)) := do
  match Command.parse arguments settings with
  | .error _ => return []
  | .ok invocation =>
    (invocation.files standard).mapM fun path => do return (path, ← readText path)

end QueryBlocks

open QueryBlocks in
def main (arguments : List String) : IO UInt32 := do
  let settingsVariable ← IO.getEnv "BLOCKGQL_CONFIG"
  let settingsFile ← standardFile
  let files ← readFiles arguments settingsVariable settingsFile
  let result := Command.execute
    { files := fun path => (lookup path files).getD (.error .missing)
      settingsFile, settingsVariable }
    [] arguments
  IO.print result.output
  IO.eprint result.errors
  return result.code.toUInt32
