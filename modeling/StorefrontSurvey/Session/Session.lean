import StorefrontSurvey.Cli.CommandLine
import StorefrontSurvey.Files.Changes
import StorefrontSurvey.Tools.Call
/-!
Sessions: files that change between calls, one registry, and one schema that was loaded last. A step
that goes wrong leaves everything as it was.
-/
namespace StorefrontSurvey.Session

open StorefrontSurvey.Path (Location)
open Tools (Config Environment Lookup)
open Wire (Envelope)

structure State where
  files : Files
  directory : Location
  surroundings : Environment
  config : Config
  registry : Schema.Registry
  /-- The schema that was loaded last, and the number of its copy in the registry. -/
  catalog : Schema.Catalog
  copy? : Option Nat

/-- A question about the schema that was loaded last. -/
inductive Query where
  | typeNamed (name : String)
  | fieldOf (type field : String)
  | matching (text : String)
  | all
  deriving DecidableEq, Repr

inductive Step where
  | put (path : String) (item : Files.Item)
  | remove (path : String)
  | touch (path : String) (modified : Int)
  | canonicalRoot (root? : Option String)
  | resolve (root? : Option String) (target : String)
  | read (root? : Option String) (target : String)
  | routes (root? : Option String) (file : String)
  | outline (root? : Option String) (file : String)
  | load (path : String)
  | cached (path : String)
  | query (query : Query)
  | listRoutes (file? : Option String)
  | outlineFile (file : String)
  | lookupSchema (lookup : Lookup)
  | checkPlacement (consumer query : String) (allowlist? : Option (List String))
  | surround (surroundings : Environment)
  | loadConfig (root? schema? : Option String)
  | useConfig (root? schema? : Option String)
  | commandLine (words : List String)
  | call (tool : String) (arguments : List Json.Member)
  | tools
  deriving Repr

inductive Found where
  | types (types : List (Option Schema.NamedType))
  | type (type? : Option Schema.NamedType)
  | field (field? : Option Wire.Field)
  | names (names : List String)
  deriving Repr

/-- A copy in the registry, and whether it is the schema that was loaded last. -/
structure Held where
  path : String
  modified : Int
  size : Nat
  isLoaded : Bool
  deriving DecidableEq, Repr

inductive Reply where
  | done
  | text (text : String)
  | routes (listing : Routes.Listing)
  | outline (survey : Outline.Survey)
  | loaded (confidence : Confidence) (warnings : List Warning) (fromCache : Bool)
  | held (held? : Option Held)
  | found (found : Found)
  | envelope (envelope : Envelope)
  | config (config : Config)
  | outcome (outcome : Cli.Outcome)
  | called (envelope? : Option Envelope)
  | tools (tools : List (Tools.Tool × List Tools.Parameter))
  | unresolved (unresolved : Files.Unresolved)
  | refused (fault : Sandbox.Fault)
  /-- What is wrong with an answer that cannot be given. -/
  | invalid (faults : List Wire.Fault)
  deriving Repr

def Query.answer (catalog : Schema.Catalog) : Query → Found
  | typeNamed name => .type (catalog.type? name)
  | fieldOf type field => .field ((catalog.field? type field).map Schema.Field.describe)
  | matching text => .names (catalog.search text)
  | all => .types ((catalog.search "").map catalog.type?)

namespace State

def root (state : State) (root? : Option String) : String := root?.getD state.config.root

/-- The reply of something that may be refused. -/
def replyOf {α : Type} (reply : α → Reply) : Except Sandbox.Fault α → Reply
  | .ok value => reply value
  | .error fault => .refused fault

def replyOrRefusal {α : Type} (reply : α → Reply) : Except Sandbox.Refusal α → Reply
  | .ok value => reply value
  | .error refusal => .refused (.refused refusal)

def replyOfLookup : Except Tools.LookupFault Envelope → Reply
  | .ok envelope => .envelope envelope
  | .error (.path fault) => .refused fault
  | .error (.warning faults) => .invalid faults

def changed (state : State) : Except Files.Unresolved Files → Reply × State
  | .ok files => (.done, { state with files })
  | .error unresolved => (.unresolved unresolved, state)

def held (state : State) (copy : Schema.Copy) : Held :=
  ⟨copy.path, copy.modified, copy.size, state.copy? == some copy.number⟩

def loadConfig (state : State) (root? schema? : Option String) :
    Except Files.Unresolved Config :=
  Config.load state.files state.directory state.surroundings root? schema?

def step (state : State) : Step → Reply × State
  | .put path item => state.changed (state.files.putItem state.directory path item)
  | .remove path => state.changed (state.files.remove state.directory path)
  | .touch path modified => state.changed (state.files.touch state.directory path modified)
  | .canonicalRoot root? =>
    (replyOf (.text ∘ Sandbox.locationText)
      (Sandbox.canonicalRoot state.files (state.root root?)), state)
  | .resolve root? target =>
    (replyOf (.text ∘ Path.Absolute.text)
      (Sandbox.resolve state.files (state.root root?) target), state)
  | .read root? target =>
    (replyOf (.text ∘ String.ofList)
      (Sandbox.readText state.files (state.root root?) target), state)
  | .routes root? file =>
    (replyOrRefusal .routes (Routes.listFile state.files (state.root root?) file), state)
  | .outline root? file =>
    (replyOrRefusal .outline (Outline.surveyFile state.files (state.root root?) file), state)
  | .load path =>
    match state.registry.load state.files state.directory path with
    | (.ok loaded, registry) =>
      (.loaded loaded.confidence loaded.warnings loaded.fromCache,
        { state with registry, catalog := loaded.catalog, copy? := loaded.copy? })
    | (.error faults, registry) => (.invalid faults, { state with registry })
  | .cached path =>
    match state.registry.cached state.files state.directory path with
    | .ok copy? => (.held (copy?.map state.held), state)
    | .error unresolved => (.unresolved unresolved, state)
  | .query query => (.found (query.answer state.catalog), state)
  | .listRoutes file? =>
    (replyOf .envelope (Tools.listRoutes state.files state.config file?), state)
  | .outlineFile file =>
    (replyOf .envelope (Tools.outlineFile state.files state.config file), state)
  | .lookupSchema lookup =>
    let (result, registry) :=
      Tools.lookupSchema state.files state.directory state.config state.registry lookup
    (replyOfLookup result, { state with registry })
  | .checkPlacement consumer query allowlist? =>
    (.envelope (Tools.checkPlacement state.config consumer query allowlist?), state)
  | .surround surroundings => (.done, { state with surroundings })
  | .loadConfig root? schema? =>
    match state.loadConfig root? schema? with
    | .ok config => (.config config, state)
    | .error unresolved => (.unresolved unresolved, state)
  | .useConfig root? schema? =>
    match state.loadConfig root? schema? with
    | .ok config => (.config config, { state with config })
    | .error unresolved => (.unresolved unresolved, state)
  | .commandLine words =>
    (.outcome (Cli.run state.files state.directory state.surroundings words), state)
  | .call tool arguments =>
    match Tools.Call.read? state.config tool arguments with
    | none => (.called none, state)
    | some call =>
      let (result, registry) := call.run state.files state.directory state.config state.registry
      (.called result.toOption, { state with registry })
  | .tools =>
    (.tools (Tools.Tool.all.map fun tool => (tool, tool.parameters state.config)), state)

def run (state : State) : List Step → List Reply
  | [] => []
  | step :: rest =>
    let (reply, state) := state.step step
    reply :: state.run rest

end State

/-- A session as it starts, with a working directory in which some files stand. -/
def start (files : Files) (directory : Location) (config : Config) : State :=
  { files, directory, config, surroundings := .bare, registry := .empty
    catalog := Schema.placeholder, copy? := none }

/-- The configuration that is taken as it is given. -/
def givenConfig (root : String) (schema? routesFile? : Option String)
    (allowlist? : Option (List String)) : Config :=
  ⟨Path.tidy root, schema?.map Path.tidy, routesFile?.getD Tools.defaultRoutesFile,
    allowlist?.getD Placement.defaultAllowlist⟩

end StorefrontSurvey.Session
