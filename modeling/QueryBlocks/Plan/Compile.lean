import QueryBlocks.Plan.Fragment

/-!
# Compiling blocks

A scalar block compiles to its field. An object block compiles to its field and arguments,
one line for each block below it that gives text, and a closing brace. Neighbouring literals
are joined, so literals and other parts alternate.
-/

set_option autoImplicit false

namespace QueryBlocks

def Fragment.joinLiterals : List Fragment → List Fragment
  | [] => []
  | .literal text :: rest =>
    match joinLiterals rest with
    | .literal more :: others => .literal (text ++ more) :: others
    | others => .literal text :: others
  | part :: rest => part :: joinLiterals rest

def Fragment.concat (parts : List Fragment) : Fragment :=
  let joined := Fragment.joinLiterals parts
  .append joined (List.replicate joined.length .text)

def Parameter.fragment (parameter : Parameter) : Fragment :=
  match parameter.value with
  | some value => .value value
  | none => .null

def moreArguments : List Parameter → List Fragment
  | [] => []
  | p :: rest => .literal (", " ++ p.name ++ ": ") :: p.fragment :: moreArguments rest

def argumentList : List Parameter → List Fragment
  | [] => []
  | p :: rest =>
    .literal ("(" ++ p.name ++ ": ") :: p.fragment :: (moreArguments rest ++ [.literal ")"])

def openBrace : Fragment := .literal " \x7b\n"

def closeBrace : Fragment := .literal "\x7d\n"

def indent : Fragment := .literal "  "

def lineEnd : Fragment := .literal "\n"

namespace Block

mutual

def fragment : Block → Fragment
  | .scalar header => .literal header.field
  | .object header slots =>
    .concat (.literal header.field :: argumentList header.parameters ++
      openBrace :: lines slots ++ [closeBrace])

def lines : List (Option Block) → List Fragment
  | [] => []
  | none :: rest => lines rest
  | some child :: rest =>
    let part := fragment child
    if part.isEmpty then lines rest else indent :: part :: lineEnd :: lines rest

end

def compiledOf : Fragment → Compiled
  | .append parts coercions => { fragment := .append parts coercions, coercions }
  | other => { fragment := other, coercions := [] }

theorem compiledOf_fragment (plan : Fragment) : (compiledOf plan).fragment = plan := by
  cases plan <;> rfl

def compile (block : Block) : Compiled := compiledOf block.fragment

end Block

def operationHeading (kind : OperationKind) (name : Option String) : String :=
  match name with
  | none => kind.keyword
  | some name => if name.isEmpty then kind.keyword else kind.keyword ++ " " ++ name

def compileOperation (kind : OperationKind) (name : Option String) (roots : List Block) :
    Compiled :=
  Block.compiledOf (.concat (.literal (operationHeading kind name) :: openBrace ::
    Block.lines (roots.map some) ++ [closeBrace]))

end QueryBlocks
