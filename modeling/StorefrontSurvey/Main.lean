import StorefrontSurvey.Cli.CommandLine
import StorefrontSurvey.Files.Changes
/-!
The program: takes in the files that a command line can speak of, runs the line on them, and prints
its answer.
-/
namespace StorefrontSurvey.Main

open StorefrontSurvey.Path (Location Segment)

/-- What stands at a location; none if nothing does. A place that is a link by another name is taken
for a link to where it leads. -/
def nodeAt (place : Location) : IO (Option Files.Node) := do
  let text := Tools.locationText place
  match ← (IO.FS.realPath text).toBaseIO with
  | .error _ => return none
  | .ok real =>
    if toString real ≠ text then return some (.link (toString real).toList)
    else match ← (IO.FS.readBinFile text).toBaseIO with
      | .ok bytes => return some (.file bytes.toList 0)
      | .error _ => return some (.directory none)

/-- Takes in what stands along names from a location, through no more than so many names. -/
def takeIn : Nat → Location → List Segment → Files → IO Files
  | 0, _, _, files => return files
  | _, _, [], files => return files
  | names + 1, place, name :: rest, files => do
    if name = [] ∨ name = Path.dot then takeIn names place rest files
    else if name = Path.dotDot then takeIn names place.dropLast rest files
    else
      match ← nodeAt (place ++ [name]) with
      | none => return files
      | some (.link target) =>
        let (start, way) := Files.startOf place target
        takeIn names start (way ++ rest) (files.put (place ++ [name]) (.link target))
      | some node => takeIn names (place ++ [name]) rest (files.put (place ++ [name]) node)

def mostNames : Nat := 4096

/-- The paths that a command line can speak of: its words, and what its words give to switches. -/
def spoken (surroundings : Tools.Environment) (line : List String) : List String :=
  line ++ line.map (fun word => String.ofList ((word.toList.dropWhile (· ≠ '=')).drop 1)) ++
    surroundings.root?.toList ++ surroundings.schema?.toList ++ [Tools.defaultRoutesFile]

/-- The names of a path from the top directory, by way of another one if it does not start there. -/
def namesFrom (way : List Segment) (path : String) : List Segment :=
  if Path.isAbsolute path then Path.splitSlash path.toList
  else way ++ Path.splitSlash path.toList

/-- The files along every such path, taken from the working directory and from every directory that
the line can speak of. -/
def filesFor (directory : Location) (paths : List String) : IO Files :=
  ("" :: paths).foldlM (fun files root =>
    ("" :: paths).foldlM (fun files path =>
      takeIn mostNames [] (namesFrom (namesFrom directory root) path) files) files) ⟨[]⟩

def run (line : List String) : IO UInt32 := do
  let surroundings : Tools.Environment :=
    ⟨← IO.getEnv "MCP_ROOT_DIR", ← IO.getEnv "MCP_SCHEMA_PATH"⟩
  let directory := Path.meaningful (toString (← IO.FS.realPath ".")).toList
  let files ← filesFor directory (spoken surroundings line)
  let outcome := Cli.run files directory surroundings line
  if let some text := outcome.output? then IO.print text
  if let some text := outcome.complaint? then IO.eprintln text
  return outcome.exitCode.toUInt32

end StorefrontSurvey.Main

def main (line : List String) : IO UInt32 := StorefrontSurvey.Main.run line
