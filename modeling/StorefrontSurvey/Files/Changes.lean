import StorefrontSurvey.Files.Canonical
/-!
Changes: writing files, making directories and links, removing. Directories on the way are made.
-/
namespace StorefrontSurvey.Files

open StorefrontSurvey.Path (Chars Segment Location Absolute)

def put (files : Files) (place : Location) (node : Node) : Files :=
  ⟨(place, node) :: files.nodes.filter fun entry => entry.1 ≠ place⟩

/-- Removes what stands at a location, and all below it. -/
def removeAt (files : Files) (place : Location) : Files :=
  ⟨files.nodes.filter fun entry => !place.isPrefixOf entry.1⟩

/-- Makes a directory at a location, and those on the way to it, where nothing stands. -/
def makeDirectories (files : Files) (place : Location) : Files :=
  ((List.range (place.length + 1)).map place.take).foldl (fun files directory =>
    if (files.node? directory).isNone then files.put directory (.directory none) else files) files

/-- The location of a path from a directory, with no link at its end followed. -/
def entryLocation (files : Files) (directory : Location) (path : String) :
    Except Unresolved Location :=
  let segments := Path.meaningful path.toList
  (files.resolveLenient directory (Path.joinSlash segments.dropLast)).map fun parent =>
    parent ++ segments.getLast?.toList

inductive Item where
  | directory
  | file (content : List UInt8) (modified : Int)
  | link (target : Chars)
  deriving DecidableEq, Repr

def putItem (files : Files) (directory : Location) (path : String) (item : Item) :
    Except Unresolved Files := do
  match item with
  | .link target =>
    let place ← files.entryLocation directory path
    return (files.makeDirectories place.dropLast).put place (.link target)
  | .directory =>
    return files.makeDirectories (← files.resolveLenient directory path.toList)
  | .file content modified =>
    let place ← files.resolveLenient directory path.toList
    if files.isDirectory place then
      throw (.blocked (.system .isDirectory (place : Absolute).text))
    else return (files.makeDirectories place.dropLast).put place (.file content modified)

def remove (files : Files) (directory : Location) (path : String) : Except Unresolved Files := do
  let place ← files.entryLocation directory path
  match files.node? place with
  | some _ => return files.removeAt place
  | none => throw (.blocked (.system .missing (place : Absolute).text))

def touch (files : Files) (directory : Location) (path : String) (modified : Int) :
    Except Unresolved Files := do
  let place ← files.resolveLenient directory path.toList
  match files.node? place with
  | some (.file content _) => return files.put place (.file content modified)
  | some _ => return files
  | none => throw (.blocked (.system .missing (place : Absolute).text))

end StorefrontSurvey.Files
