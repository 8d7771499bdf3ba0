import StorefrontSurvey.Files.Canonical
import StorefrontSurvey.Report
import StorefrontSurvey.Text.Utf8
/-!
Paths of callers, kept within a root directory. What is handed back lies in the canonical root; a
path that leads out of it, by its own segments or by a link, is refused.
-/
namespace StorefrontSurvey.Sandbox

open StorefrontSurvey.Path (Chars Segment Location Absolute)

/-- A path that leads out of the root: by its own segments, by a link at its place, by a link among
the directories that are there, or by one above those that are missing. -/
inductive Escape where
  | bySegments (target : String) (place : Absolute)
  | byLink (target : String) (place root : Location)
  | byParent (target : String) (parent : Location)
  | byAncestor (target : String) (ancestor : Location)
  deriving DecidableEq, Repr

def locationText (place : Location) : String := (place : Absolute).text

def Escape.message : Escape → String
  | .bySegments target place =>
    "Path escapes root directory: " ++ (target ++ " (resolved to " ++ place.text ++ ")")
  | .byLink target place root =>
    "Path escapes root directory via symlink: " ++ (target ++ " (resolved to " ++
      locationText place ++ ", root: " ++ locationText root ++ ")")
  | .byParent target parent =>
    "Path escapes root directory via symlink in parent: " ++ (target ++ " (parent: " ++
      locationText parent ++ ")")
  | .byAncestor target ancestor =>
    "Path escapes root directory via symlink in ancestor: " ++ (target ++ " (ancestor: " ++
      locationText ancestor ++ ")")

theorem Escape.message_ne (escape : Escape) : escape.message ≠ "" := by
  cases escape <;> (refine append_ne_empty_left ?_; decide)

inductive RootFault where
  | relative (root : String)
  | missing (root : String)
  deriving DecidableEq, Repr

def RootFault.message : RootFault → String
  | .relative root => "Root directory must be absolute, got: " ++ root
  | .missing root => "Root directory does not exist: " ++ root

/-- Why a path is not even tried. -/
inductive Refusal where
  | root (fault : RootFault)
  | rootLoop (path : String)
  | escaped (escape : Escape)
  | nullCharacter
  deriving DecidableEq, Repr

def Refusal.message : Refusal → String
  | .root fault => fault.message
  | .rootLoop path => Files.loopText path
  | .escaped escape => escape.message
  | .nullCharacter => Files.Fault.message .nullCharacter

/-- Why a path that may be used could not be. -/
inductive Obstacle where
  | system (cause : Files.Cause) (path : String)
  | linkLoop (loop path : String)
  | undecodable (fault : Text.Utf8Fault)
  deriving DecidableEq, Repr

def Obstacle.message : Obstacle → String
  | .system cause path => (Files.Fault.system cause path).message
  | .linkLoop loop path =>
    Files.numbered Files.Cause.manyLinks.number ("Symlink loop: " ++ Files.loopText loop) path
  | .undecodable fault => fault.message

inductive Fault where
  | refused (refusal : Refusal)
  | blocked (obstacle : Obstacle)
  deriving DecidableEq, Repr

def Fault.message : Fault → String
  | .refused refusal => refusal.message
  | .blocked obstacle => obstacle.message

def Fault.escape (escape : Escape) : Fault := .refused (.escaped escape)

def Fault.ofFile : Files.Fault → Fault
  | .system cause path => .blocked (.system cause path)
  | .nullCharacter => .refused .nullCharacter

def Fault.below (path : Absolute) : Files.Unresolved → Fault
  | .blocked fault => .ofFile fault
  | .loop loop => .blocked (.linkLoop loop path.text)

/-! ### The root -/

def canonicalRoot (files : Files) (root : String) : Except Fault Location :=
  if Path.isAbsolute root then
    match files.resolveStrict [] root.toList with
    | .ok place => .ok place
    | .error (.blocked (.system .missing _)) => .error (.refused (.root (.missing root)))
    | .error (.blocked fault) => .error (.ofFile fault)
    | .error (.loop path) => .error (.refused (.rootLoop path))
  else .error (.refused (.root (.relative root)))

/-! ### Targets -/

/-- Whether a place lies in a root, as both are written. -/
def isWithin (place root : Location) : Bool := (place : Absolute).isWithin root

/-- Looks at the nearest directory above a place that is there. -/
def checkAncestors (files : Files) (root : Location) (target : String) :
    List Absolute → Except Fault Unit
  | [] => .ok ()
  | ancestor :: above =>
    match files.leadsSomewhere ancestor with
    | .error fault => .error (.ofFile fault)
    | .ok false => checkAncestors files root target above
    | .ok true =>
      match files.resolveLenient [] ancestor.chars with
      | .error fault => .error (.below ancestor fault)
      | .ok place =>
        if isWithin place root then .ok () else .error (.escape (.byAncestor target place))

/-- The place of something that is not there yet: in its canonical parent, or where it is written if
its parent is not there either. -/
def resolveMissing (files : Files) (root : Location) (place : Absolute) (target : String) :
    Except Fault Absolute :=
  match files.resolveStrict [] place.parent.chars with
  | .error (.blocked (.system .missing _)) | .error (.blocked (.system .notDirectory _)) =>
    (checkAncestors files root target place.parents).map fun _ => place
  | .error fault => .error (.below place.parent fault)
  | .ok parent =>
    if isWithin parent root then .ok ⟨parent ++ place.location.getLast?.toList, false⟩
    else .error (.escape (.byParent target parent))

def resolveIn (files : Files) (root : Location) (target : String) : Except Fault Absolute :=
  let place := Path.fromDirectory root target.toList
  if Path.climbsOut (String.ofList (Path.wayFrom root place.location)) then
    .error (.escape (.bySegments target place))
  else
    match files.resolveStrict [] place.chars with
    | .ok found =>
      if isWithin found root then .ok found else .error (.escape (.byLink target found root))
    | .error (.blocked (.system .missing _)) => resolveMissing files root place target
    | .error fault => .error (.below place fault)

def resolve (files : Files) (root target : String) : Except Fault Absolute := do
  resolveIn files (← canonicalRoot files root) target

def readText (files : Files) (root target : String) : Except Fault (List Char) := do
  let place ← resolve files root target
  match files.content place with
  | .error fault => throw (.ofFile fault)
  | .ok bytes =>
    match Text.ofBytes bytes with
    | .error fault => throw (.blocked (.undecodable fault))
    | .ok text => return text

end StorefrontSurvey.Sandbox
