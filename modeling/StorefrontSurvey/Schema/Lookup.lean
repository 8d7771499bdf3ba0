import StorefrontSurvey.Schema.Catalog
import StorefrontSurvey.Text.LowerCase
import StorefrontSurvey.Text.Within
import StorefrontSurvey.Wire.Answer
/-!
Looking up types and fields of a schema, and how they are described.
-/
namespace StorefrontSurvey.Schema

/-- Names of introspection start like this; searches pass over them. -/
def hiddenMark : List Char := ['_', '_']

/-- Whether a search finds a name: case does not matter. -/
def isFound (text name : String) : Bool :=
  !hiddenMark.isPrefixOf name.toList &&
    Text.occursIn (Text.lower text).toList (Text.lower name).toList

/-- The names of the types that a search finds, in order. -/
def Catalog.search (c : Catalog) (text : String) : List String :=
  (c.names.filter (isFound text)).mergeSort fun a b => !decide (b < a)

def Field.describe (f : Field) : Wire.Field :=
  ⟨f.name, f.type.text, f.args.map fun a => ⟨a.name, a.type.text⟩⟩

def Kind.hasFields : Kind → Bool
  | .object => true
  | .interface => true
  | _ => false

end StorefrontSurvey.Schema
