import StorefrontSurvey.Path.Lexical
import StorefrontSurvey.Report
/-!
Who owns a file, and whether a query file stands where its consumer may use it.
-/
namespace StorefrontSurvey.Placement

/-- The part of a code base that a file belongs to. -/
inductive Owner where
  | module (name : String)
  | platform
  | layout
  | unknown
  deriving DecidableEq, Repr, Inhabited

/-- The owner that a path shows, with backslashes read as slashes: the first module directory
decides, then a platform directory, then a layout directory. -/
def ownerOf (path : String) : Owner :=
  let text := Path.unifySlashes path.toList
  match Path.moduleSpan? text with
  | some span => .module (String.ofList span.name)
  | none =>
    if Text.occursIn "/platform/".toList text then .platform
    else if Text.occursIn "/layout/".toList text then .layout
    else .unknown

inductive Status where
  | pass
  | warn
  | fail
  deriving DecidableEq, Repr, Inhabited

inductive Violation where
  /-- The consumer's module uses a query of another module. -/
  | crossModule (consumer query : String)
  /-- A module uses a query that is shared. -/
  | sharedQuery (consumer : String)
  /-- Code of the platform or of a layout uses a query of a module. -/
  | platformModule (consumer : Owner)
  | unknownOwner
  deriving DecidableEq, Repr

inductive Fix where
  | move (target : String) (rationale : String)
  | keep (rationale : String)
  deriving DecidableEq, Repr

structure Evidenced where
  violation : Violation
  files : List String
  deriving DecidableEq, Repr

structure Verdict where
  status : Status
  owner : Owner
  violations : List Evidenced
  fixes : List Fix
  confidence : Confidence
  deriving DecidableEq, Repr

def Owner.word : Owner → String
  | .module _ => "module"
  | .platform => "platform"
  | .layout => "layout"
  | .unknown => "unknown"

def Violation.code : Violation → String
  | .crossModule .. => "CROSS_MODULE_QUERY"
  | .sharedQuery _ => "SHARED_QUERY_WARNING"
  | .platformModule _ => "PLATFORM_MODULE_QUERY"
  | .unknownOwner => "UNKNOWN_OWNER"

def Violation.message : Violation → String
  | .crossModule consumer query =>
    "Module \"" ++ consumer ++ "\" cannot import query from module \"" ++ query ++ "\""
  | .sharedQuery consumer =>
    "Module \"" ++ consumer ++ "\" is using a shared query. " ++
      "Consider moving it into the module if it's module-specific."
  | .platformModule consumer => consumer.word ++ " code cannot import queries from modules"
  | .unknownOwner => "Could not determine owner of consumer file"

/-- The directory of modules that a consumer lies in, up to and including `modules`. -/
def modulesDirectory (consumer : String) : String :=
  match Path.moduleSpan? (Path.unifySlashes consumer.toList) with
  | some span => Path.normalize (String.ofList (span.before ++ "/modules".toList))
  | none => "app/modules"

/-- Whether a query's path contains one of the shared paths. An empty entry shares nothing. -/
def isShared (query : String) (allowlist : List String) : Bool :=
  let text := Path.unifySlashes query.toList
  allowlist.any fun entry =>
    entry ≠ "" && Text.occursIn (Path.unifySlashes entry.toList) text

def pass (owner : Owner) : Verdict := ⟨.pass, owner, [], [], .high⟩

/-- The verdict when a module uses a query of another module. -/
def crossModule (consumer query name other : String) : Verdict :=
  { status := .fail
    owner := .module name
    violations := [⟨.crossModule name other, [consumer, query]⟩]
    fixes := [.move
      (modulesDirectory consumer ++ "/" ++ name ++ "/graphql/" ++ Path.lastSegment query)
      "Move query into the consuming module's graphql directory to maintain module boundaries"]
    confidence := .high }

def sharedQuery (query name : String) : Verdict :=
  { status := .warn
    owner := .module name
    violations := [⟨.sharedQuery name, [query]⟩]
    fixes := [.keep
      "Shared queries are acceptable but may indicate a need for module-specific queries"]
    confidence := .medium }

def platformModule (consumer query : String) (owner : Owner) : Verdict :=
  { status := .fail
    owner
    violations := [⟨.platformModule owner, [consumer, query]⟩]
    fixes := [.move ("app/" ++ owner.word ++ "/graphql/" ++ Path.lastSegment query)
      ("Move query to the " ++ owner.word ++
        " directory or extract to platform if truly shared")]
    confidence := .high }

def unknownConsumer (consumer : String) : Verdict :=
  { status := .warn
    owner := .unknown
    violations := [⟨.unknownOwner, [consumer]⟩]
    fixes := []
    confidence := .low }

/-- The verdict on a query used by a consumer. A module may use its own queries and those that are
not another module's, with a warning if they are shared; platform and layout code may use no
module's queries. -/
def judge (consumer query : String) (allowlist : List String) : Verdict :=
  match ownerOf consumer, ownerOf query with
  | .module name, .module other =>
    if name = other then pass (.module name) else crossModule consumer query name other
  | .module name, _ =>
    if isShared query allowlist then sharedQuery query name else pass (.module name)
  | .platform, .module _ => platformModule consumer query .platform
  | .layout, .module _ => platformModule consumer query .layout
  | .unknown, _ => unknownConsumer consumer
  | owner, _ => pass owner

def defaultAllowlist : List String := ["app/shared"]

end StorefrontSurvey.Placement
