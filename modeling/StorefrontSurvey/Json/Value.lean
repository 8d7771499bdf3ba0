/-!
Values of JSON. The members of an object stand in the order in which they were written.
-/
namespace StorefrontSurvey

inductive Json where
  | null
  | bool (b : Bool)
  | int (n : Int)
  /-- A number with a fraction or an exponent, or one that is not finite, as it was written. -/
  | decimal (literal : String)
  | str (s : String)
  | arr (items : List Json)
  | obj (members : List (String × Json))
  deriving Repr, BEq, Inhabited

namespace Json

abbrev Member := String × Json

def lookup (members : List Member) (key : String) : Option Json :=
  match members with
  | [] => none
  | (name, value) :: rest => if name = key then some value else lookup rest key

/-- An object of the members that have a value. -/
def ofFields (fields : List (String × Option Json)) : Json :=
  .obj (fields.filterMap fun field => field.2.map fun value => (field.1, value))

def unlessNull : Json → Option Json
  | .null => none
  | value => some value

end Json

end StorefrontSurvey
