import StorefrontSurvey.Outline.SourceFile
import StorefrontSurvey.Routes.ManifestFile
import StorefrontSurvey.Schema.Lookup
import StorefrontSurvey.Schema.Registry
import StorefrontSurvey.Tools.Config
/-!
The tools: each answers with an envelope. A path that leads out of the root is answered with a
failure; other refusals of a path, and a schema whose fault cannot be told, are handed on.
-/
namespace StorefrontSurvey.Tools

open Wire (Envelope Message)
open StorefrontSurvey.Path (Location)

def plainFailure (code : String) (message : Message) : Envelope :=
  Wire.failure code message .low []

/-- The answer to a path that is refused, if there is one. -/
def refused (refusal : Sandbox.Refusal) : Except Sandbox.Fault Envelope :=
  match refusal with
  | .escaped escape => .ok (plainFailure "PATH_ESCAPE" ⟨escape.message, escape.message_ne⟩)
  | refusal => .error (.refused refusal)

/-! ### Routes -/

def routesEnvelope (listing : Routes.Listing) : Envelope :=
  if listing.routes.isEmpty && listing.confidence == .low then
    Wire.failure "NO_ROUTES_FOUND" ⟨"No routes found in the routes file", by decide⟩
      listing.confidence listing.warnings
  else
    Wire.success (.obj [("routes", Wire.write listing.routes)]) listing.confidence listing.warnings

/-- The routes of the manifest that is given, or else of the configured one, read with a parser. -/
def listRoutesBy (parser : Script.Parser) (files : Files) (config : Config)
    (routesFile? : Option String) : Except Sandbox.Fault Envelope :=
  let file := (firstGiven? [routesFile?]).getD config.routesFile
  match Routes.listFileBy parser files config.root file with
  | .ok listing => .ok (routesEnvelope listing)
  | .error refusal => refused refusal

def listRoutes (files : Files) (config : Config) (routesFile? : Option String) :
    Except Sandbox.Fault Envelope :=
  listRoutesBy Script.parse files config routesFile?

/-! ### Outlines -/

def surveyEnvelope (survey : Outline.Survey) : Envelope :=
  match survey.confidence, survey.warnings with
  | .low, warning :: _ =>
    Wire.failure "PARSE_FAILED" ⟨warning.message, warning.message_ne⟩ .low survey.warnings
  | confidence, warnings => Wire.success (Wire.write survey.outline) confidence warnings

def outlineFile (files : Files) (config : Config) (file : String) : Except Sandbox.Fault Envelope :=
  match Outline.surveyFile files config.root file with
  | .ok survey => .ok (surveyEnvelope survey)
  | .error refusal => refused refusal

/-! ### Schema lookups -/

structure Lookup where
  schemaPath? : Option String
  typeName? : Option String
  fieldRef? : Option String
  search? : Option String
  deriving DecidableEq, Repr

inductive Question where
  | type (name : String)
  | field (reference : String)
  | search (text : String)
  deriving DecidableEq, Repr

/-- All that a lookup asks; empty texts ask nothing. -/
def Lookup.questions (lookup : Lookup) : List Question :=
  (firstGiven? [lookup.typeName?]).toList.map .type ++
    (firstGiven? [lookup.fieldRef?]).toList.map .field ++
    (firstGiven? [lookup.search?]).toList.map .search

def notFound (loaded : Schema.Loaded) (code : String) (message : Message) : Envelope :=
  Wire.failure code message .medium loaded.warnings

def about (kind name rest : String) (h : kind ≠ "") : Message :=
  ⟨kind ++ (name ++ rest), append_ne_empty_left h⟩

def typeEnvelope (loaded : Schema.Loaded) (name : String) : Envelope :=
  match loaded.catalog.type? name with
  | none =>
    notFound loaded "TYPE_NOT_FOUND" (about "Type " name " not found in schema" (by decide))
  | some type =>
    if type.kind = .object then
      Wire.success (Wire.write (⟨name, type.fields.map Schema.Field.describe⟩ : Wire.TypeAnswer))
        loaded.confidence loaded.warnings
    else notFound loaded "NOT_OBJECT_TYPE" (about "Type " name " is not an object type" (by decide))

/-- The type and the field of a reference: both sides of its only dot. -/
def splitReference? (reference : String) : Option (String × String) :=
  let chars := reference.toList
  let type := chars.takeWhile (· ≠ '.')
  let field := (chars.dropWhile (· ≠ '.')).drop 1
  if type = [] ∨ field = [] ∨ '.' ∈ field then none
  else some (String.ofList type, String.ofList field)

def fieldEnvelope (loaded : Schema.Loaded) (reference : String) : Envelope :=
  match splitReference? reference with
  | none =>
    plainFailure "INVALID_FIELD_REF"
      ⟨"fieldRef must be in format \"TypeName.fieldName\"", by decide⟩
  | some (type, name) =>
    match loaded.catalog.field? type name with
    | none =>
      notFound loaded "FIELD_NOT_FOUND"
        (about "Field " reference " not found in schema" (by decide))
    | some field =>
      let described := field.describe
      Wire.success
        (Wire.write (⟨type, name, described.returnType, described.args⟩ : Wire.FieldAnswer))
        loaded.confidence loaded.warnings

def Question.envelope (loaded : Schema.Loaded) : Question → Envelope
  | type name => typeEnvelope loaded name
  | field reference => fieldEnvelope loaded reference
  | search text =>
    Wire.success (Wire.write (⟨loaded.catalog.search text⟩ : Wire.SearchAnswer))
      loaded.confidence loaded.warnings

/-- The path of the schema: the one that is given, within the root, or else the configured one. -/
def schemaPath? (files : Files) (config : Config) (lookup : Lookup) :
    Except Sandbox.Fault (Option String) :=
  match firstGiven? [lookup.schemaPath?] with
  | some path => (Sandbox.resolve files config.root path).map fun place => some place.text
  | none => .ok config.schema?

/-- What keeps a lookup from an answer: its path, or what is wrong with the warning of its schema. -/
inductive LookupFault where
  | path (fault : Sandbox.Fault)
  | warning (faults : List Wire.Fault)
  deriving DecidableEq, Repr

def lookupSchema (files : Files) (directory : Location) (config : Config)
    (registry : Schema.Registry) (lookup : Lookup) :
    Except LookupFault Envelope × Schema.Registry :=
  match schemaPath? files config lookup with
  | .error (.refused refusal) => ((refused refusal).mapError .path, registry)
  | .error fault => (.error (.path fault), registry)
  | .ok none =>
    (.ok (plainFailure "MISSING_SCHEMA_PATH"
      ⟨"schemaPath is required. Provide it in the tool call or configure MCP_SCHEMA_PATH.",
        by decide⟩), registry)
  | .ok (some path) =>
    match lookup.questions with
    | [] =>
      (.ok (plainFailure "MISSING_QUERY"
        ⟨"Must provide exactly one of: typeName, fieldRef, or search", by decide⟩), registry)
    | [question] =>
      match registry.load files directory path with
      | (.ok loaded, registry) => (.ok (question.envelope loaded), registry)
      | (.error faults, registry) => (.error (.warning faults), registry)
    | _ =>
      (.ok (plainFailure "SCHEMA_LOOKUP_AMBIGUOUS_INPUT"
        ⟨"Must provide exactly one of: typeName, fieldRef, or search. Multiple provided.",
          by decide⟩), registry)

/-! ### Placement -/

def checkPlacement (config : Config) (consumer query : String) (allowlist? : Option (List String)) :
    Envelope :=
  let verdict := Placement.judge consumer query (allowlist?.getD config.allowlist)
  Wire.success (.obj (Wire.Verdict.of verdict).findings) verdict.confidence []

end StorefrontSurvey.Tools
