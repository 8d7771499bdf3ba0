import StorefrontSurvey.Json.Decimal
import StorefrontSurvey.Text.Wide
/-!
Values of JSON as they are read. In their texts, and in the names of their members, halves of
surrogate pairs may stand alone.
-/
namespace StorefrontSurvey.Json

open Text (Wide)

inductive Raw where
  | null
  | bool (b : Bool)
  | int (n : Int)
  /-- A number with a fraction or an exponent, or one that is not finite, as it was written. -/
  | decimal (literal : String)
  | str (text : Wide)
  | arr (items : List Raw)
  | obj (members : List (Wide × Raw))
  deriving Repr, Inhabited

namespace Raw

abbrev Member := Wide × Raw

def lookup (members : List Member) (key : String) : Option Raw :=
  (members.find? fun member => member.1 == Wide.of key).map Prod.snd

/-- Adds a member; one of the same name keeps its place and takes the new value. -/
def setMember (members : List Member) (key : Wide) (value : Raw) : List Member :=
  match members with
  | [] => [(key, value)]
  | (name, old) :: rest =>
    if name = key then (name, value) :: rest else (name, old) :: setMember rest key value

/-- The text of a value that is one of characters alone. -/
def word? : Raw → Option String
  | .str text => text.plain?
  | _ => none

def kindWord : Raw → String
  | .null => "NoneType"
  | .bool _ => "bool"
  | .int _ => "int"
  | .decimal _ => "float"
  | .str _ => "str"
  | .arr _ => "list"
  | .obj _ => "dict"

/-- Whether a value counts as something: null, false, zero and empty ones do not. -/
def isSome : Raw → Bool
  | .null => false
  | .bool b => b
  | .int n => n ≠ 0
  | .decimal literal => !isZeroLiteral literal
  | .str text => !text.isEmpty
  | .arr items => !items.isEmpty
  | .obj members => !members.isEmpty

end Raw

end StorefrontSurvey.Json
