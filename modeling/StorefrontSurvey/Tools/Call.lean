import StorefrontSurvey.Tools.Tools
/-!
Calls of tools by name, with arguments in JSON. A call that a tool does not understand has no
answer.
-/
namespace StorefrontSurvey.Tools

open Wire (Envelope Reading)
open StorefrontSurvey.Path (Location)

inductive Tool where
  | routes
  | outline
  | schema
  | placement
  deriving DecidableEq, Repr

namespace Tool

def all : List Tool := [.routes, .outline, .schema, .placement]

def name : Tool → String
  | routes => "codebase.routes.list"
  | outline => "codebase.file.outline"
  | schema => "storefront.schema.lookup"
  | placement => "architecture.graphql.validatePlacement"

def named? (name : String) : Option Tool := all.find? fun tool => tool.name == name

end Tool

/-- An argument of a tool, with the value that it has when it is not given. -/
structure Parameter where
  name : String
  default? : Option Json
  deriving Repr

def Parameter.isRequired (parameter : Parameter) : Bool := parameter.default?.isNone

def Tool.parameters (config : Config) : Tool → List Parameter
  | routes => [⟨"routesFile", some (.str config.routesFile)⟩]
  | outline => [⟨"filePath", none⟩]
  | schema => ["schemaPath", "typeName", "fieldRef", "search"].map fun name => ⟨name, some .null⟩
  | placement =>
    [⟨"consumerFilePath", none⟩, ⟨"queryFilePath", none⟩, ⟨"sharedAllowlist", some .null⟩]

inductive Call where
  | routes (file : String)
  | outline (file : String)
  | schema (lookup : Lookup)
  | placement (consumer query : String) (allowlist? : Option (List String))
  deriving DecidableEq, Repr

/-- Reads the arguments of a tool, all of which are its parameters. -/
def Tool.readCall (config : Config) (members : List Json.Member) : Tool → Reading Call
  | routes => Call.routes <$> Wire.withDefault members "routesFile" config.routesFile
  | outline => Call.outline <$> Wire.required members "filePath"
  | schema =>
    Call.schema <$> (Lookup.mk <$> Wire.optional members "schemaPath" <*>
      Wire.optional members "typeName" <*> Wire.optional members "fieldRef" <*>
      Wire.optional members "search")
  | placement =>
    Call.placement <$> Wire.required members "consumerFilePath" <*>
      Wire.required members "queryFilePath" <*> Wire.optional members "sharedAllowlist"

/-- The call of a tool with arguments, if there is such a tool and it takes them. -/
def Call.read? (config : Config) (name : String) (members : List Json.Member) : Option Call :=
  match Tool.named? name with
  | none => none
  | some tool =>
    let known := (tool.parameters config).map Parameter.name
    if members.all fun member => known.contains member.1 then
      match tool.readCall config members with
      | .good call => some call
      | .bad _ => none
    else none

def Call.run (files : Files) (directory : Location) (config : Config)
    (registry : Schema.Registry) : Call → Except LookupFault Envelope × Schema.Registry
  | routes file => ((listRoutes files config (some file)).mapError .path, registry)
  | outline file => ((outlineFile files config file).mapError .path, registry)
  | schema lookup => lookupSchema files directory config registry lookup
  | placement consumer query allowlist? =>
    (.ok (checkPlacement config consumer query allowlist?), registry)

end StorefrontSurvey.Tools
