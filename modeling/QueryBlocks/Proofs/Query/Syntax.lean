import QueryBlocks.Proofs.Query.Token

/-!
# The grammar of query documents

A derivation of a document is its syntax tree: the tokens of the tree are those of the text.
The grammar covers the executable documents, with variables, directives and fragments besides
what plans make use of.
-/

set_option autoImplicit false

namespace QueryBlocks.Query

inductive Value where
  | reference (name : String)
  | int (text : String)
  | float (text : String)
  | string (text : String)
  | block (raw : String)
  | boolean (value : Bool)
  | null
  | enum (name : String)
  | list (items : List Value)
  | object (fields : List (String × Value))

structure Directive where
  name : String
  arguments : List (String × Value)

inductive VariableType where
  | named (name : String) (required : Bool)
  | list (item : VariableType) (required : Bool)

structure Variable where
  name : String
  type : VariableType
  default : Option Value
  directives : List Directive

inductive Selection where
  | field (label : Option String) (name : String) (arguments : List (String × Value))
      (directives : List Directive) (selections : List Selection)
  | spread (fragment : String) (directives : List Directive)
  | inline (condition : Option String) (directives : List Directive) (selections : List Selection)

inductive Keyword where
  | query
  | mutation
  | subscription

inductive Definition where
  | shorthand (selections : List Selection)
  | operation (keyword : Keyword) (name : Option String) (declared : List Variable)
      (directives : List Directive) (selections : List Selection)
  | fragment (name condition : String) (directives : List Directive) (selections : List Selection)

abbrev Document := List Definition

mutual

def Value.tokens : Value → List Token
  | .reference name => [.mark '$', .name name]
  | .int text => [.int text]
  | .float text => [.float text]
  | .string text => [.string text]
  | .block raw => [.block raw]
  | .boolean value => [.name (if value then "true" else "false")]
  | .null => [.name "null"]
  | .enum name => [.name name]
  | .list items => .mark '[' :: (itemTokens items ++ [.mark ']'])
  | .object fields => .mark '{' :: (fieldTokens fields ++ [.mark '}'])

def Value.itemTokens : List Value → List Token
  | [] => []
  | item :: rest => item.tokens ++ Value.itemTokens rest

def Value.fieldTokens : List (String × Value) → List Token
  | [] => []
  | (name, value) :: rest => .name name :: .mark ':' :: (value.tokens ++ Value.fieldTokens rest)

end

def enclosed {α : Type} (first last : Char) (items : List α) (tokens : List α → List Token) :
    List Token :=
  if items.isEmpty then [] else .mark first :: (tokens items ++ [.mark last])

def argumentTokens (arguments : List (String × Value)) : List Token :=
  enclosed '(' ')' arguments Value.fieldTokens

def Directive.tokens (directive : Directive) : List Token :=
  .mark '@' :: .name directive.name :: argumentTokens directive.arguments

def directiveTokens (directives : List Directive) : List Token :=
  directives.flatMap Directive.tokens

def requiredTokens (required : Bool) : List Token := if required then [.mark '!'] else []

def VariableType.tokens : VariableType → List Token
  | .named name required => .name name :: requiredTokens required
  | .list item required => .mark '[' :: (item.tokens ++ .mark ']' :: requiredTokens required)

def defaultTokens : Option Value → List Token
  | none => []
  | some value => .mark '=' :: value.tokens

def Variable.tokens (v : Variable) : List Token :=
  .mark '$' :: .name v.name :: .mark ':' :: (v.type.tokens ++
    (defaultTokens v.default ++ directiveTokens v.directives))

def variableTokens (declared : List Variable) : List Token :=
  enclosed '(' ')' declared (List.flatMap Variable.tokens)

def aliasTokens : Option String → List Token
  | none => []
  | some label => [.name label, .mark ':']

def conditionTokens : Option String → List Token
  | none => []
  | some name => [.name "on", .name name]

mutual

def Selection.tokens : Selection → List Token
  | .field label name arguments directives selections =>
    aliasTokens label ++ .name name :: (argumentTokens arguments ++ (directiveTokens directives ++
      if selections.isEmpty then []
      else .mark '{' :: (Selection.allTokens selections ++ [.mark '}'])))
  | .spread fragment directives => .spread :: .name fragment :: directiveTokens directives
  | .inline condition directives selections =>
    .spread :: (conditionTokens condition ++ (directiveTokens directives ++
      .mark '{' :: (Selection.allTokens selections ++ [.mark '}'])))

def Selection.allTokens : List Selection → List Token
  | [] => []
  | selection :: rest => selection.tokens ++ Selection.allTokens rest

end

def setTokens (selections : List Selection) : List Token :=
  .mark '{' :: (Selection.allTokens selections ++ [.mark '}'])

def Keyword.text : Keyword → String
  | .query => "query"
  | .mutation => "mutation"
  | .subscription => "subscription"

def nameTokens : Option String → List Token
  | none => []
  | some name => [.name name]

def Definition.tokens : Definition → List Token
  | .shorthand selections => setTokens selections
  | .operation keyword name declared directives selections =>
    .name keyword.text :: (nameTokens name ++ (variableTokens declared ++
      (directiveTokens directives ++ setTokens selections)))
  | .fragment name condition directives selections =>
    .name "fragment" :: .name name :: .name "on" :: .name condition ::
      (directiveTokens directives ++ setTokens selections)

def Document.tokens (document : Document) : List Token := document.flatMap Definition.tokens

mutual

/-- What the grammar asks of a value: no word of another value as the name of an enum value,
and no declared where values are constant. -/
def Value.Formed (constant : Bool) : Value → Prop
  | .reference _ => constant = false
  | .enum name => name ≠ "true" ∧ name ≠ "false" ∧ name ≠ "null"
  | .list items => Value.ItemsFormed constant items
  | .object fields => Value.FieldsFormed constant fields
  | _ => True

def Value.ItemsFormed (constant : Bool) : List Value → Prop
  | [] => True
  | item :: rest => item.Formed constant ∧ Value.ItemsFormed constant rest

def Value.FieldsFormed (constant : Bool) : List (String × Value) → Prop
  | [] => True
  | (_, value) :: rest => value.Formed constant ∧ Value.FieldsFormed constant rest

end

def DirectivesFormed (constant : Bool) (directives : List Directive) : Prop :=
  ∀ directive ∈ directives, Value.FieldsFormed constant directive.arguments

def Variable.Formed (v : Variable) : Prop :=
  (∀ value ∈ v.default, value.Formed true) ∧ DirectivesFormed true v.directives

mutual

/-- Braces hold at least one selection, and no fragment is called `on`. -/
def Selection.Formed : Selection → Prop
  | .field _ _ arguments directives selections =>
    Value.FieldsFormed false arguments ∧ DirectivesFormed false directives ∧
      Selection.AllFormed selections
  | .spread fragment directives => fragment ≠ "on" ∧ DirectivesFormed false directives
  | .inline _ directives selections =>
    DirectivesFormed false directives ∧ selections ≠ [] ∧ Selection.AllFormed selections

def Selection.AllFormed : List Selection → Prop
  | [] => True
  | selection :: rest => selection.Formed ∧ Selection.AllFormed rest

end

def SetFormed (selections : List Selection) : Prop :=
  selections ≠ [] ∧ Selection.AllFormed selections

def Definition.Formed : Definition → Prop
  | .shorthand selections => SetFormed selections
  | .operation _ _ declared directives selections =>
    (∀ v ∈ declared, v.Formed) ∧ DirectivesFormed false directives ∧
      SetFormed selections
  | .fragment name _ directives selections =>
    name ≠ "on" ∧ DirectivesFormed false directives ∧ SetFormed selections

def Document.Formed (document : Document) : Prop :=
  document ≠ [] ∧ ∀ definition ∈ document, definition.Formed

def Derives (text : String) (document : Document) : Prop :=
  Document.Formed document ∧ scanner.tokens text = some (Document.tokens document)

end QueryBlocks.Query
