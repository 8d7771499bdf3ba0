import StorefrontSurvey.Json.Reader
import StorefrontSurvey.Path.Lexical
import StorefrontSurvey.Report
import StorefrontSurvey.Schema.FromDocument
import StorefrontSurvey.Schema.FromIntrospection
import StorefrontSurvey.Text.Utf8
import StorefrontSurvey.Wire.Reading
/-!
Loading schemas from the bytes of a file. A schema is written in the schema language or is an
introspection result; the file's suffix says which of the two is tried, or tried first.
-/
namespace StorefrontSurvey.Schema

open Json (Raw)
open Text (Wide)

/-- What a file's suffix says of its format. -/
inductive Format where
  | definition
  | introspectionFirst
  | definitionFirst
  deriving DecidableEq, Repr

def Format.ofPath (path : String) : Format :=
  let suffix := Path.suffix path
  if suffix = ".graphql" ∨ suffix = ".gql" then .definition
  else if suffix = ".json" then .introspectionFirst
  else .definitionFirst

inductive LoadFault where
  | bytes (fault : Text.Utf8Fault)
  | definition (fault : DefinitionFault)
  | json (fault : Json.ReadFault)
  | noSchema
  | introspection (fault : BuildFault)
  deriving Repr

def LoadFault.message (text : List Char) : LoadFault → Wide
  | .bytes fault => .of fault.message
  | .definition fault => fault.message (.ofChars text)
  | .json fault => .of (fault.message text)
  | .noSchema => .of "Introspection JSON must contain a '__schema' object"
  | .introspection fault => fault.message (.ofChars text)

/-- Whether the other format is tried after a fault. -/
def LoadFault.isRetried : LoadFault → Bool
  | .introspection (.barred _) => false
  | .json fault => !fault.isFinal
  | _ => true

def fromDefinition (text : List Char) : Except LoadFault Catalog :=
  match Catalog.ofText (.ofChars text) with
  | .ok catalog => .ok catalog
  | .error fault => .error (.definition fault)

/-- The result within an answer, which may be wrapped as data. -/
def unwrapped (j : Raw) : Raw :=
  match j with
  | .obj members =>
    match Raw.lookup members "data" with
    | some data => if data.isSome then data else j
    | none => j
  | _ => j

def hasSchema : Raw → Bool
  | .obj members => (Raw.lookup members "__schema").isSome
  | _ => false

def fromIntrospection (text : List Char) : Except LoadFault Catalog :=
  match Json.parse text with
  | .error fault => .error (.json fault)
  | .ok j =>
    let result := unwrapped j
    if hasSchema result then
      match Catalog.ofIntrospection result with
      | .ok catalog => .ok catalog
      | .error fault => .error (.introspection fault)
    else .error .noSchema

/-- The catalog of a text. Where the introspection result is tried first, its fault is reported when
both formats fail. -/
def fromText (format : Format) (text : List Char) : Except LoadFault Catalog :=
  match format with
  | .definition => fromDefinition text
  | .introspectionFirst =>
    match fromIntrospection text with
    | .ok catalog => .ok catalog
    | .error fault =>
      if fault.isRetried then
        match fromDefinition text with
        | .ok catalog => .ok catalog
        | .error other => .error (if other.isRetried then fault else other)
      else .error fault
  | .definitionFirst =>
    match fromDefinition text with
    | .ok catalog => .ok catalog
    | .error fault => if fault.isRetried then fromIntrospection text else .error fault

/-- The catalog of a file's bytes, or why there is none. -/
def load (format : Format) (bytes : List UInt8) : Except Wide Catalog :=
  match Text.ofBytes bytes with
  | .error fault => .error (LoadFault.bytes fault |>.message [])
  | .ok text =>
    match fromText format text with
    | .ok catalog => .ok catalog
    | .error fault => .error (fault.message text)

/-- The schema of those who could not load one. -/
def placeholderText : String := "type Query \x7b _: String \x7d"

def placeholder : Catalog :=
  match Catalog.ofText placeholderText with
  | .ok catalog => catalog
  | .error _ => ⟨[], by simp, by simp⟩

/-- A schema as it was loaded, with how far it can be trusted. -/
structure Loaded where
  catalog : Catalog
  confidence : Confidence
  warnings : List Warning
  fromCache : Bool
  /-- The number of the copy that is kept; none for the placeholder. -/
  copy? : Option Nat

def loadWarning (reason : String) : Warning :=
  { code := "SCHEMA_LOAD_ERROR"
    message := "Failed to load schema: " ++ reason ++
      ". Supported formats: .graphql/.gql (SDL) or .json (introspection)."
    message_ne := append_ne_empty_right (by decide) }

namespace Loaded

/-- The placeholder, with the reason why there is no better schema. -/
def failed (reason : String) : Loaded := ⟨placeholder, .low, [loadWarning reason], false, none⟩

/-- What is wrong with a warning of a reason that cannot be written. -/
def untold : List Wire.Fault := [⟨.notUnicode, [.key "message"]⟩]

/-- What comes of a load that fails: the placeholder, unless there is no warning of the reason. -/
def failing (reason : Wide) : Except (List Wire.Fault) Loaded :=
  match reason.plain? with
  | some text => .ok (failed text)
  | none => .error untold

theorem failing_of (reason : String) : failing (.of reason) = .ok (failed reason) := by
  simp only [failing, Wide.plain_of]

theorem failing_error_iff {reason : Wide} {faults : List Wire.Fault} :
    failing reason = .error faults ↔ reason.isWhole = false ∧ faults = untold := by
  rw [← Wide.plain_eq_none, failing]
  cases reason.plain? <;> simp [eq_comm]

def fresh (catalog : Catalog) (copy : Nat) : Loaded := ⟨catalog, .high, [], false, some copy⟩

def kept (catalog : Catalog) (copy : Nat) : Loaded := ⟨catalog, .high, [], true, some copy⟩

end Loaded

end StorefrontSurvey.Schema
