import QueryBlocks.Command.Arguments
import QueryBlocks.Command.Check
import QueryBlocks.Command.Failure
import QueryBlocks.Command.Listing
import QueryBlocks.Plan.Compile
import QueryBlocks.Transport.Client

/-!
# Carrying out commands

A command reads files, sends requests and writes lines. Files are given beforehand and
replies come from a list, one for each request; a request after the last reply is dropped.
-/

set_option autoImplicit false

namespace QueryBlocks.Command

structure Surroundings where
  files : String → Except FileError String
  settingsFile : String
  settingsVariable : Option String

structure Progress where
  replies : List Http.Reply
  sent : List Http.Request
  output : String
  errors : String

abbrev Run := ExceptT Failure (StateM Progress)

def printText (text : String) : Run Unit :=
  modify fun p => { p with output := p.output ++ text }

def printLine (text : String) : Run Unit := printText (text ++ "\n")

def printErrorLine (text : String) : Run Unit :=
  modify fun p => { p with errors := p.errors ++ text ++ "\n" }

def printSuccess (text : String) : Run Unit := printLine ("✓ " ++ text)

def printWarning (text : String) : Run Unit := printErrorLine ("! " ++ text)

def printFailure (text : String) : Run Unit := printErrorLine ("✗ " ++ text)

def orFail {ε α : Type} (failure : ε → Failure) (result : Except ε α) : Run α :=
  match result with
  | .ok value => return value
  | .error cause => throw (failure cause)

def send (settings : Settings) (endpoint document : String) : Run Answer := do
  let headers := settings.headersFor endpoint
  match Http.request? settings.transport.toHttp endpoint document headers with
  | none => return .error (Http.notBuilt endpoint)
  | some request =>
    let progress ← get
    set { progress with replies := progress.replies.drop 1, sent := progress.sent ++ [request] }
    return Http.answerOf endpoint request (progress.replies.head?.getD .dropped)

def resolveEndpoint (settings : Settings) (nameOrUrl : Option String) : Run String :=
  match settings.resolve nameOrUrl with
  | some url => return url
  | none => throw .noEndpoint

def fetchSchema (settings : Settings) (endpoint : String) : Run Schema := do
  let answer ← send settings endpoint Introspection.document
  orFail (.introspection endpoint) (FetchOutcome.ofAnswer endpoint answer).toExcept

def introspect (settings : Settings) (format : Format) (endpoint : String) : Run Unit := do
  let schema ← fetchSchema settings endpoint
  match format with
  | .json => printLine schema.listingJson
  | .table => schema.listing.forM printLine

def sourceType (schema : Schema) (endpoint : String) : FieldSource → Run TypeDef
  | .type name =>
    match schema.type? name with
    | some type => return type
    | none => throw (.unknownType name endpoint)
  | .root kind =>
    match schema.root? kind with
    | some type => return type
    | none => throw (.noRoot endpoint kind)

def isFieldless (source : FieldSource) (type : TypeDef) : Bool :=
  match source with
  | .type _ => !type.kind.hasFields
  | .root _ => false

def listFields (settings : Settings) (format : Format) (endpoint : String)
    (source : FieldSource) : Run Unit := do
  let schema ← fetchSchema settings endpoint
  let type ← sourceType schema endpoint source
  if isFieldless source type then printWarning "Only OBJECT and INTERFACE types have fields"
  let templates := type.templates endpoint
  match format with
  | .json => printLine (Template.listingJson templates)
  | .table => printLine (Template.listing templates)

def loadTree (surroundings : Surroundings) (file : String) : Run Block := do
  let text ← orFail (.unreadable file) (surroundings.files file)
  orFail (.badTree file) ((Block.ofTreeText text).run 1).1

def staleText (block : StaleBlock) : String :=
  "#" ++ toString block.id.number ++ " " ++ block.field ++ ": " ++ block.condition.message

def checkTree (settings : Settings) (root : Block) : Run TreeCheck := do
  let endpoint := root.endpoint
  let answer ← send settings endpoint Introspection.document
  let check ← orFail (.introspection endpoint) (TreeCheck.ofAnswer answer root)
  check.stale.forM fun block => printWarning (staleText block)
  if check.report.stale = 0 then
    printSuccess (toString check.report.bound ++ " blocks match " ++ endpoint)
  return check

def planJson (root : Block) (stale : Nat) : Json :=
  let compiled := root.compile
  .ofMembers
    [("endpoint", .string root.endpoint), ("query", .string compiled.render),
      ("plan", .string compiled.fragment.hostCode), ("stale", .integer stale)]

def compileTree (surroundings : Surroundings) (settings : Settings) (format : Format)
    (file : String) (check plan : Bool) : Run Unit := do
  let tree ← loadTree surroundings file
  let checked ←
    if check then do
      let result ← checkTree settings tree
      pure (result.tree, result.report.stale)
    else pure (tree, 0)
  match format with
  | .json => printLine (planJson checked.1 checked.2).pretty
  | .table =>
    if plan then printLine checked.1.compile.fragment.hostCode
    else printText checked.1.compile.render

def runTree (surroundings : Surroundings) (settings : Settings) (format : Format)
    (file : String) (endpoint : Option String) (kind : OperationKind) (name : Option String) :
    Run Unit := do
  let tree ← loadTree surroundings file
  let endpoint := endpoint.elim tree.endpoint settings.resolveName
  let document := (compileOperation kind name [tree]).render
  let answer ← send settings endpoint document
  match ← orFail (.request endpoint) (OperationOutcome.ofAnswer endpoint answer) with
  | .data value =>
    if format = .table then printLine ("Operation: " ++ name.getD tree.header.field)
    printLine value.pretty
  | .errors messages =>
    messages.forM printFailure
    throw (.reported endpoint messages.length)

def perform (surroundings : Surroundings) (invocation : Invocation) : Run Unit := do
  let file := invocation.settings.getD surroundings.settingsFile
  let settings ← orFail (.settings file) (Settings.ofFile (surroundings.files file))
  match invocation.action with
  | .showSettings =>
    printLine ("Config: " ++ file)
    printLine settings.toToml
  | .settingsPath => printLine file
  | .introspect endpoint =>
    introspect settings invocation.format (← resolveEndpoint settings endpoint)
  | .fields endpoint source =>
    listFields settings invocation.format (← resolveEndpoint settings endpoint) source
  | .compile tree check plan =>
    compileTree surroundings settings invocation.format tree check plan
  | .run tree endpoint kind name =>
    runTree surroundings settings invocation.format tree endpoint kind name

structure Result where
  code : Nat
  output : String
  errors : String
  sent : List Http.Request

def versionText : String := "blockgql 0.0.1\n"

def usageText : String :=
  "Usage: blockgql [OPTIONS] <COMMAND>\n\nCommands:\n" ++
    "  introspect  Fetch an endpoint's schema and list its types\n" ++
    "  fields      List the fields a block of the given type can hold\n" ++
    "  compile     Compile a persisted block tree\n" ++
    "  run         Compile a persisted block tree and execute it\n" ++
    "  config      Inspect configuration\n"

def execute (surroundings : Surroundings) (replies : List Http.Reply)
    (arguments : List String) : Result :=
  match parse arguments surroundings.settingsVariable with
  | .error .misuse => { code := 2, output := "", errors := usageText, sent := [] }
  | .error .help => { code := 0, output := usageText, errors := "", sent := [] }
  | .error .version => { code := 0, output := versionText, errors := "", sent := [] }
  | .ok invocation =>
    let start : Progress := { replies, sent := [], output := "", errors := "" }
    match ((perform surroundings invocation).run start : Except Failure Unit × Progress) with
    | (.ok (), p) => { code := 0, output := p.output, errors := p.errors, sent := p.sent }
    | (.error failure, p) =>
      { code := 1, output := p.output
        errors := p.errors ++ "✗ " ++ failure.message ++ "\n", sent := p.sent }

end QueryBlocks.Command
