/-!
Documents of the schema language. Executable definitions may stand beside those of types.
-/
namespace StorefrontSurvey.Schema

inductive TypeRef where
  | named (name : String)
  | list (item : TypeRef)
  | nonNull (type : TypeRef)
  deriving DecidableEq, Repr, Inhabited

namespace TypeRef

def text : TypeRef → String
  | named name => name
  | list item => "[" ++ item.text ++ "]"
  | nonNull type => type.text ++ "!"

def name : TypeRef → String
  | named name => name
  | list item => item.name
  | nonNull type => type.name

def isNonNull : TypeRef → Bool
  | nonNull _ => true
  | _ => false

end TypeRef

inductive Value where
  | variable (name : String)
  | int (text : String)
  | float (text : String)
  | string (value : String)
  | block (value : String)
  | bool (b : Bool)
  | null
  | enum (name : String)
  | list (items : List Value)
  | object (fields : List (String × Value))
  deriving Repr, Inhabited

structure Argument where
  name : String
  value : Value
  /-- Where the value starts. -/
  position : Nat
  deriving Repr

structure Directive where
  name : String
  args : List Argument
  position : Nat
  deriving Repr

structure InputValue where
  name : String
  type : TypeRef
  default? : Option Value
  directives : List Directive
  deriving Repr

structure FieldDef where
  name : String
  args : List InputValue
  type : TypeRef
  directives : List Directive
  deriving Repr

structure EnumValueDef where
  name : String
  directives : List Directive
  deriving Repr

inductive TypeBody where
  | scalar
  | object (interfaces : List String) (fields : List FieldDef)
  | interface (interfaces : List String) (fields : List FieldDef)
  | union (members : List String)
  | enum (values : List EnumValueDef)
  | input (fields : List InputValue)
  deriving Repr

structure TypeDef where
  name : String
  directives : List Directive
  body : TypeBody
  deriving Repr

inductive Operation where
  | query
  | mutation
  | subscription
  deriving DecidableEq, Repr

def Operation.word : Operation → String
  | .query => "query"
  | .mutation => "mutation"
  | .subscription => "subscription"

def Operation.ofWord? : String → Option Operation
  | "query" => some .query
  | "mutation" => some .mutation
  | "subscription" => some .subscription
  | _ => none

/-- A part of a document to which directives can be applied. -/
inductive Site where
  | query
  | mutation
  | subscription
  | field
  | fragmentDefinition
  | fragmentSpread
  | inlineFragment
  | variableDefinition
  | schema
  | scalar
  | object
  | fieldDefinition
  | argumentDefinition
  | interface
  | union
  | enum
  | enumValue
  | inputObject
  | inputFieldDefinition
  | directiveDefinition
  deriving DecidableEq, Repr

/-- A site's name in documents and in messages. -/
def Site.names : List (Site × String × String) :=
  [(.query, "QUERY", "query"), (.mutation, "MUTATION", "mutation"),
    (.subscription, "SUBSCRIPTION", "subscription"), (.field, "FIELD", "field"),
    (.fragmentDefinition, "FRAGMENT_DEFINITION", "fragment definition"),
    (.fragmentSpread, "FRAGMENT_SPREAD", "fragment spread"),
    (.inlineFragment, "INLINE_FRAGMENT", "inline fragment"),
    (.variableDefinition, "VARIABLE_DEFINITION", "variable definition"),
    (.schema, "SCHEMA", "schema"), (.scalar, "SCALAR", "scalar"), (.object, "OBJECT", "object"),
    (.fieldDefinition, "FIELD_DEFINITION", "field definition"),
    (.argumentDefinition, "ARGUMENT_DEFINITION", "argument definition"),
    (.interface, "INTERFACE", "interface"), (.union, "UNION", "union"), (.enum, "ENUM", "enum"),
    (.enumValue, "ENUM_VALUE", "enum value"), (.inputObject, "INPUT_OBJECT", "input object"),
    (.inputFieldDefinition, "INPUT_FIELD_DEFINITION", "input field definition"),
    (.directiveDefinition, "DIRECTIVE_DEFINITION", "directive definition")]

def Site.phrase (site : Site) : String :=
  ((Site.names.lookup site).map Prod.snd).getD ""

def Site.ofName? (name : String) : Option Site :=
  (Site.names.find? fun entry => entry.2.1 == name).map Prod.fst

structure DirectiveDef where
  name : String
  args : List InputValue
  repeatable : Bool
  sites : List Site
  deriving Repr

structure OperationType where
  operation : Operation
  type : String
  deriving DecidableEq, Repr

structure VariableDef where
  type : TypeRef
  default? : Option Value
  directives : List Directive
  deriving Repr

inductive Selection where
  | field (args : List Argument) (directives : List Directive) (selections : List Selection)
  | spread (directives : List Directive)
  | inline (type? : Option String) (directives : List Directive) (selections : List Selection)
  deriving Repr

inductive Definition where
  | schema (directives : List Directive) (operations : List OperationType)
  | type (d : TypeDef)
  | directive (d : DirectiveDef)
  | schemaExtension (directives : List Directive) (operations : List OperationType)
  | typeExtension (d : TypeDef)
  | operation (operation : Operation) (declared : List VariableDef)
    (directives : List Directive) (selections : List Selection)
  | fragment (type : String) (directives : List Directive) (selections : List Selection)
  deriving Repr

abbrev Document := List Definition

end StorefrontSurvey.Schema
