import StorefrontSurvey.Schema.Document
import StorefrontSurvey.Schema.Lexer
/-!
The types of a schema, and how they are looked up. Every name in a catalog is a name of the schema
language, no two types share one, and no two fields of one type do.
-/
namespace StorefrontSurvey.Schema

structure Param where
  name : String
  type : TypeRef
  deriving DecidableEq, Repr

structure Field where
  name : String
  type : TypeRef
  args : List Param
  deriving DecidableEq, Repr

inductive Kind where
  | scalar
  | object
  | interface
  | union
  | enum
  | input
  deriving DecidableEq, Repr

/-- Values can be asked for by types of this kind. -/
def Kind.isInput : Kind → Bool
  | .scalar => true
  | .enum => true
  | .input => true
  | _ => false

/-- Values can be answered with types of this kind. -/
def Kind.isOutput : Kind → Bool
  | .input => false
  | _ => true

/-- A type with the fields that it answers with, which only objects and interfaces have. -/
structure NamedType where
  name : String
  kind : Kind
  fields : List Field
  deriving DecidableEq, Repr

/-- Whether a text is a name of the schema language. -/
def isName (text : String) : Bool :=
  match text.toList with
  | [] => false
  | c :: rest => isNameStart c && rest.all isNamePart

/-- Fields have names of the schema language, all of them different. -/
structure WellFielded (fields : List Field) : Prop where
  distinct : (fields.map Field.name).Nodup
  named : ∀ f ∈ fields, isName f.name = true

instance (fields : List Field) : Decidable (WellFielded fields) :=
  decidable_of_iff ((fields.map Field.name).Nodup ∧ ∀ f ∈ fields, isName f.name = true)
    ⟨fun ⟨distinct, named⟩ => ⟨distinct, named⟩, fun ⟨distinct, named⟩ => ⟨distinct, named⟩⟩

/-- A type that can stand in a catalog. -/
structure NamedType.Fit (t : NamedType) : Prop where
  named : isName t.name = true
  fielded : WellFielded t.fields

instance (t : NamedType) : Decidable t.Fit :=
  decidable_of_iff (isName t.name = true ∧ WellFielded t.fields)
    ⟨fun ⟨named, fielded⟩ => ⟨named, fielded⟩, fun ⟨named, fielded⟩ => ⟨named, fielded⟩⟩

structure Catalog where
  types : List NamedType
  names_nodup : (types.map NamedType.name).Nodup
  fit : ∀ t ∈ types, t.Fit

namespace Catalog

def ofTypes? (types : List NamedType) : Option Catalog :=
  if nodup : (types.map NamedType.name).Nodup then
    if fit : ∀ t ∈ types, t.Fit then some ⟨types, nodup, fit⟩ else none
  else none

def names (c : Catalog) : List String := c.types.map NamedType.name

def type? (c : Catalog) (name : String) : Option NamedType :=
  c.types.find? fun t => t.name == name

def field? (c : Catalog) (type field : String) : Option Field :=
  (c.type? type).bind fun t => t.fields.find? fun f => f.name == field

end Catalog

/-! ### Types that every schema knows -/

def named (name : String) : TypeRef := .named name

def must (type : TypeRef) : TypeRef := .nonNull type

def many (type : TypeRef) : TypeRef := .list type

def plainField (name : String) (type : TypeRef) : Field := ⟨name, type, []⟩

def deprecatedToo : Param := ⟨"includeDeprecated", named "Boolean"⟩

def deprecation : List Field :=
  [plainField "isDeprecated" (must (named "Boolean")),
    plainField "deprecationReason" (named "String")]

/-- The types by which a schema is asked about itself. -/
def introspectionTypes : List NamedType :=
  [⟨"__Schema", .object,
      [plainField "description" (named "String"),
        plainField "types" (must (many (must (named "__Type")))),
        plainField "queryType" (must (named "__Type")),
        plainField "mutationType" (named "__Type"),
        plainField "subscriptionType" (named "__Type"),
        ⟨"directives", must (many (must (named "__Directive"))),
          [⟨"includeDeprecated", must (named "Boolean")⟩]⟩]⟩,
    ⟨"__Directive", .object,
      [plainField "name" (must (named "String")),
        plainField "description" (named "String"),
        plainField "isRepeatable" (must (named "Boolean")),
        plainField "locations" (must (many (must (named "__DirectiveLocation")))),
        ⟨"args", must (many (must (named "__InputValue"))), [deprecatedToo]⟩] ++ deprecation⟩,
    ⟨"__DirectiveLocation", .enum, []⟩,
    ⟨"__Type", .object,
      [plainField "kind" (must (named "__TypeKind")),
        plainField "name" (named "String"),
        plainField "description" (named "String"),
        plainField "specifiedByURL" (named "String"),
        ⟨"fields", many (must (named "__Field")), [deprecatedToo]⟩,
        plainField "interfaces" (many (must (named "__Type"))),
        plainField "possibleTypes" (many (must (named "__Type"))),
        ⟨"enumValues", many (must (named "__EnumValue")), [deprecatedToo]⟩,
        ⟨"inputFields", many (must (named "__InputValue")), [deprecatedToo]⟩,
        plainField "ofType" (named "__Type"),
        plainField "isOneOf" (named "Boolean")]⟩,
    ⟨"__Field", .object,
      [plainField "name" (must (named "String")),
        plainField "description" (named "String"),
        ⟨"args", must (many (must (named "__InputValue"))), [deprecatedToo]⟩,
        plainField "type" (must (named "__Type"))] ++ deprecation⟩,
    ⟨"__InputValue", .object,
      [plainField "name" (must (named "String")),
        plainField "description" (named "String"),
        plainField "type" (must (named "__Type")),
        plainField "defaultValue" (named "String")] ++ deprecation⟩,
    ⟨"__EnumValue", .object,
      [plainField "name" (must (named "String")),
        plainField "description" (named "String")] ++ deprecation⟩,
    ⟨"__TypeKind", .enum, []⟩]

def scalarType (name : String) : NamedType := ⟨name, .scalar, []⟩

def scalarNames : List String := ["Int", "Float", "String", "Boolean", "ID"]

/-- The types that are known without a definition, and that no definition changes. -/
def standardTypes : List NamedType := scalarNames.map scalarType ++ introspectionTypes

def standardType? (name : String) : Option NamedType :=
  standardTypes.find? fun t => t.name == name

/-- The standard types that every schema has: those of its introspection. -/
def everPresent : List String :=
  ["Boolean", "String"] ++ introspectionTypes.map NamedType.name

/-- Types of a schema's own, with the standard types that they need. -/
def withStandard (types : List NamedType) (used : List String) : List NamedType :=
  types ++ standardTypes.filter fun t =>
    (everPresent.contains t.name || used.contains t.name) &&
      !types.any fun own => own.name == t.name

end StorefrontSurvey.Schema
