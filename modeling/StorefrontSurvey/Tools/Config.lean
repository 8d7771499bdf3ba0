import StorefrontSurvey.Files.Canonical
import StorefrontSurvey.Placement.Verdict
/-!
What the tools are set up with: the root, the schema, the manifest and the shared directories.
-/
namespace StorefrontSurvey.Tools

open StorefrontSurvey.Path (Location)

structure Config where
  root : String
  schema? : Option String
  routesFile : String
  allowlist : List String
  deriving DecidableEq, Repr

def defaultRoutesFile : String := "app/routes.ts"

/-- Settings of the surroundings, which hold where nothing is given. -/
structure Environment where
  root? : Option String
  schema? : Option String
  deriving DecidableEq, Repr

def Environment.bare : Environment := ⟨none, none⟩

/-- The first text that is given; an empty one counts as none. -/
def firstGiven? : List (Option String) → Option String
  | [] => none
  | some text :: rest => if text = "" then firstGiven? rest else some text
  | none :: rest => firstGiven? rest

def locationText (place : Location) : String := (place : Path.Absolute).text

/-- The configuration for a root and a schema, which may be left to the surroundings. Without a root
the working directory is taken. -/
def Config.load (files : Files) (directory : Location) (surroundings : Environment)
    (root? schema? : Option String) : Except Files.Unresolved Config := do
  let root ← match firstGiven? [root?, surroundings.root?] with
    | some root => files.resolveLenient directory root.toList
    | none => files.resolveLenient [] (directory : Path.Absolute).chars
  let schema? ← match firstGiven? [schema?, surroundings.schema?] with
    | some schema => (files.resolveLenient directory schema.toList).map (some ∘ locationText)
    | none => .ok none
  return ⟨locationText root, schema?, defaultRoutesFile, Placement.defaultAllowlist⟩

end StorefrontSurvey.Tools
