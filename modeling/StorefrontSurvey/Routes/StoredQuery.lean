import StorefrontSurvey.Files.Changes
/-!
Queries for syntax trees, which are kept in files of one directory and asked for by name.
-/
namespace StorefrontSurvey.Routes

open StorefrontSurvey.Path (Location)

/-- What a query captures, and how many patterns it has. -/
structure StoredQuery where
  captures : List String
  patterns : Nat
  deriving DecidableEq, Repr

def callQuery : StoredQuery := ⟨["route.fn", "route.args", "route.call"], 1⟩

def queryDirectory : Location := ["program", "core", "queries"].map String.toList

def queryFile : Location := queryDirectory ++ ["routes.scm".toList]

def queryFiles : Files := (Files.makeDirectories ⟨[]⟩ queryDirectory).put queryFile (.file [] 0)

/-- The query of a name, which is a path from the directory of queries without its suffix. -/
def storedQuery? (name : String) : Option StoredQuery :=
  let path := name.toList ++ ".scm".toList
  let (place, names) := Files.startOf queryDirectory path
  match queryFiles.locate true ⟨place ++ names.filter (fun s => s ≠ [] ∧ s ≠ Path.dot), false⟩ with
  | .ok place => if place = queryFile then some callQuery else none
  | .error _ => none

end StorefrontSurvey.Routes
