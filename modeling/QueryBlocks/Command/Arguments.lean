import QueryBlocks.Schema.Basic

/-!
# The command line

A command is named first, and options and operands follow in any order. Options of the
whole program may stand before or after the command; the last level that gives one decides.
-/

set_option autoImplicit false

namespace QueryBlocks.Command

inductive Format where
  | table
  | json
deriving DecidableEq

def Format.ofName? (name : String) : Option Format :=
  if name = "table" then some .table else if name = "json" then some .json else none

inductive FieldSource where
  | type (name : String)
  | root (kind : OperationKind)

inductive Action where
  | introspect (endpoint : Option String)
  | fields (endpoint : Option String) (source : FieldSource)
  | compile (file : String) (check plan : Bool)
  | run (file : String) (endpoint : Option String) (kind : OperationKind) (name : Option String)
  | showSettings
  | settingsPath

structure Invocation where
  action : Action
  settings : Option String
  format : Format

inductive Stop where
  | misuse
  | help
  | version
deriving DecidableEq

structure OptionForm where
  name : String
  short : Option Char
  valued : Bool
  /-- The values that the option takes. -/
  takes : String → Bool

def flag (name : String) : OptionForm :=
  { name, short := none, valued := false, takes := fun _ => true }

def textOption (name : String) (short : Char) : OptionForm :=
  { name, short := some short, valued := true, takes := fun _ => true }

def settingsOption : OptionForm :=
  { name := "config", short := some 'c', valued := true, takes := (· ≠ "") }

def formatOption : OptionForm :=
  { name := "format", short := some 'f', valued := true
    takes := fun value => (Format.ofName? value).isSome }

structure Level where
  options : List OptionForm
  operands : Nat
  commands : List String
  version : Bool

structure Found where
  values : List (String × String)
  operands : List String

namespace Found

def empty : Found := { values := [], operands := [] }

def value? (found : Found) (name : String) : Option String :=
  (found.values.find? fun entry => entry.1 = name).map Prod.snd

def has (found : Found) (name : String) : Bool := (found.value? name).isSome

def addOption (found : Found) (form : OptionForm) (value : String) : Except Stop Found :=
  if found.has form.name || !form.takes value then .error .misuse
  else .ok { found with values := found.values ++ [(form.name, value)] }

def addOperand (found : Found) (level : Level) (operand : String) : Except Stop Found :=
  if found.operands.length < level.operands then
    .ok { found with operands := found.operands ++ [operand] }
  else .error .misuse

end Found

inductive Word where
  | plain (text : String)
  | long (name : String) (value : Option String)
  | short (name : Char) (value : Option String)
  | rest

def Word.ofText (text : String) : Word :=
  match text.toList with
  | ['-', '-'] => .rest
  | '-' :: '-' :: name =>
    .long (String.ofList (name.takeWhile (· ≠ '=')))
      (match name.dropWhile (· ≠ '=') with
        | [] => none
        | _ :: value => some (String.ofList value))
  | '-' :: c :: [] => .short c none
  | '-' :: c :: '=' :: value => .short c (some (String.ofList value))
  | '-' :: c :: value => .short c (some (String.ofList value))
  | _ => .plain text

def Level.option? (level : Level) (isNamed : OptionForm → Bool) : Except Stop OptionForm :=
  match level.options.find? isNamed with
  | some form => .ok form
  | none => .error .misuse

structure Scan where
  found : Found
  command : Option (String × List String)

def Level.scanOperands (level : Level) (found : Found) : List String → Except Stop Found
  | [] => .ok found
  | operand :: rest => do level.scanOperands (← found.addOperand level operand) rest

/-- An option with its value, if it has one; `pending` is an option that waits for its value. -/
def Level.scan (level : Level) (pending : Option OptionForm) (found : Found) :
    List String → Except Stop Scan
  | [] => if pending.isSome then .error .misuse else .ok { found, command := none }
  | text :: rest =>
    match pending, Word.ofText text with
    | some form, .plain value => do level.scan none (← found.addOption form value) rest
    | some _, _ => .error .misuse
    | none, .rest => do
      return { found := ← level.scanOperands found rest, command := none }
    | none, .plain text => do
      if text ∈ level.commands then .ok { found, command := some (text, rest) }
      else level.scan none (← found.addOperand level text) rest
    | none, .long name value => do
      if name = "help" ∧ value.isNone then .error .help
      else if name = "version" ∧ value.isNone ∧ level.version then .error .version
      else
        let form ← level.option? (·.name == name)
        match form.valued, value with
        | true, none => level.scan (some form) found rest
        | true, some value => level.scan none (← found.addOption form value) rest
        | false, none => level.scan none (← found.addOption form "") rest
        | false, some _ => .error .misuse
    | none, .short name value => do
      if name = 'h' then .error .help
      else if name = 'V' ∧ level.version then .error .version
      else
        let form ← level.option? (·.short == some name)
        match value with
        | none => level.scan (some form) found rest
        | some value => level.scan none (← found.addOption form value) rest

def shared : List OptionForm := [settingsOption, formatOption]

def settingsCommands : List String := ["show", "path", "help"]

def commands : List String := ["introspect", "fields", "compile", "run", "config", "help"]

def topLevel : Level := { options := shared, operands := 0, commands, version := true }

def levelOf (options : List OptionForm) (operands : Nat) : Level :=
  { options := options ++ shared, operands, commands := [], version := false }

def introspectLevel : Level := levelOf [] 1

def fieldsLevel : Level := levelOf [textOption "type" 't', flag "mutation"] 1

def compileLevel : Level := levelOf [flag "check", flag "plan"] 1

def runLevel : Level :=
  levelOf [textOption "endpoint" 'e', flag "mutation", textOption "name" 'n'] 1

def settingsLevel : Level := { levelOf [] 0 with commands := settingsCommands }

def fileOperand (found : Found) : Except Stop String :=
  match found.operands with
  | [file] => if file = "" then .error .misuse else .ok file
  | _ => .error .misuse

def kindOf (mutation : Bool) : OperationKind := if mutation then .mutation else .query

def isSettingsTopic : List String → Bool
  | [] => true
  | [name] => name ∈ settingsCommands
  | _ => false

def isTopic : List String → Bool
  | [] => true
  | "config" :: rest => isSettingsTopic rest
  | [name] => name ∈ commands
  | _ => false

def readAction (name : String) (arguments : List String) : Except Stop (Action × List Found) := do
  match name with
  | "introspect" =>
    let { found, .. } ← introspectLevel.scan none .empty arguments
    return (.introspect found.operands.head?, [found])
  | "fields" =>
    let { found, .. } ← fieldsLevel.scan none .empty arguments
    match found.value? "type", found.has "mutation" with
    | some _, true => .error .misuse
    | some type, false => return (.fields found.operands.head? (.type type), [found])
    | none, mutation => return (.fields found.operands.head? (.root (kindOf mutation)), [found])
  | "compile" =>
    let { found, .. } ← compileLevel.scan none .empty arguments
    return (.compile (← fileOperand found) (found.has "check") (found.has "plan"), [found])
  | "run" =>
    let { found, .. } ← runLevel.scan none .empty arguments
    return (.run (← fileOperand found) (found.value? "endpoint")
      (kindOf (found.has "mutation")) (found.value? "name"), [found])
  | "config" =>
    let { found, command } ← settingsLevel.scan none .empty arguments
    match command with
    | some ("show", rest) =>
      let inner ← (levelOf [] 0).scan none .empty rest
      return (.showSettings, [inner.found, found])
    | some ("path", rest) =>
      let inner ← (levelOf [] 0).scan none .empty rest
      return (.settingsPath, [inner.found, found])
    | some (_, topic) => .error (if isSettingsTopic topic then .help else .misuse)
    | none => .error .misuse
  | _ => .error (if isTopic arguments then .help else .misuse)

/-- The innermost level that gives an option decides. -/
def innermost (levels : List Found) (name : String) : Option String :=
  levels.findSome? (·.value? name)

/-- What the arguments ask for; `settings` is the settings file that the environment names. It
stands in at each level that names none, where it must not be empty. -/
def parse (arguments : List String) (settings : Option String) : Except Stop Invocation := do
  let { found, command } ← topLevel.scan none .empty arguments
  match command with
  | none => .error .misuse
  | some (name, rest) =>
    let (action, levels) ← readAction name rest
    let levels := levels ++ [found]
    if settings = some "" ∧ !levels.all (·.has "config") then .error .misuse
    else
      let format := (innermost levels "format").bind Format.ofName?
      return {
        action
        settings := innermost levels "config" <|> settings
        format := format.getD .table }

def Invocation.files (invocation : Invocation) (standard : String) : List String :=
  invocation.settings.getD standard :: match invocation.action with
    | .compile file .. => [file]
    | .run file .. => [file]
    | _ => []

end QueryBlocks.Command
