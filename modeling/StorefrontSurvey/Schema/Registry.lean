import StorefrontSurvey.Files.Canonical
import StorefrontSurvey.Schema.Loading
/-!
Schemas that were built, by the canonical location of their file. A schema is used again as long as
its file keeps its time of modification and its size.
-/
namespace StorefrontSurvey.Schema

open StorefrontSurvey.Path (Location)

/-- A schema with the path and the stamp of the file that it was built from. -/
structure Copy where
  catalog : Catalog
  path : String
  modified : Int
  size : Nat
  /-- Tells this copy from all others. -/
  number : Nat

structure Registry where
  copies : List (Location × Copy)
  /-- How many schemas were built so far. -/
  made : Nat

namespace Registry

def empty : Registry := ⟨[], 0⟩

def copy? (registry : Registry) (place : Location) : Option Copy := registry.copies.lookup place

/-- The copy for a location, if what stands there still has its stamp. -/
def current? (registry : Registry) (place : Location) (stamp : Files.Stamp) : Option Copy :=
  (registry.copy? place).filter fun copy =>
    copy.modified = stamp.modified ∧ copy.size = stamp.size

/-- Keeps a new copy in place of the one before. -/
def keep (registry : Registry) (place : Location) (catalog : Catalog) (modified : Int)
    (size : Nat) : Registry :=
  ⟨(place, ⟨catalog, (place : Path.Absolute).text, modified, size, registry.made⟩) ::
      registry.copies.filter fun entry => entry.1 ≠ place,
    registry.made + 1⟩

/-- The schema of a file at a canonical location. -/
def loadAt (registry : Registry) (files : Files) (place : Location) :
    Except (List Wire.Fault) Loaded × Registry :=
  match files.status place with
  | .error fault => (Loaded.failing fault.message, registry)
  | .ok node =>
    match node.stamp?.bind (registry.current? place) with
    | some copy => (.ok (.kept copy.catalog copy.number), registry)
    | none =>
      match node with
      | .file content modified =>
        match Schema.load (.ofPath (place : Path.Absolute).text) content with
        | .error reason => (Loaded.failing reason, registry)
        | .ok catalog =>
          (.ok (.fresh catalog registry.made),
            registry.keep place catalog modified content.length)
      | _ =>
        let fault := Files.Fault.system .isDirectory (place : Path.Absolute).text
        (Loaded.failing fault.message, registry)

/-- The schema of the file that a path from a directory leads to. -/
def load (registry : Registry) (files : Files) (directory : Location) (path : String) :
    Except (List Wire.Fault) Loaded × Registry :=
  match files.resolveLenient directory path.toList with
  | .error unresolved => (Loaded.failing unresolved.message, registry)
  | .ok place => registry.loadAt files place

/-- The copy for the file that a path from a directory leads to. -/
def cached (registry : Registry) (files : Files) (directory : Location) (path : String) :
    Except Files.Unresolved (Option Copy) :=
  (files.resolveLenient directory path.toList).map registry.copy?

end Registry

end StorefrontSurvey.Schema
