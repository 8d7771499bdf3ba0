import StorefrontSurvey.Files.Files
/-!
Canonical locations: a path with all its links followed. Where strictness is asked for, everything
on the way has to be there; otherwise names that lead nowhere are kept.
-/
namespace StorefrontSurvey.Files

open StorefrontSurvey.Path (Chars Segment Location Absolute)

inductive Mode where
  | strict
  | lenient
  deriving DecidableEq, Repr

/-- Where the links of a path led. -/
inductive Reached where
  | done (place : Location)
  /-- A link leads through itself. The names that were left are kept as they are written. -/
  | caught (place : Location)
  deriving DecidableEq, Repr

/-- A place with names after it that are kept as they are written; a slash in front of them makes
them start at the top. -/
def keepRest (place : Location) (rest : List Segment) : Location :=
  match rest with
  | [] :: _ :: _ => rest
  | _ => place ++ rest

/-- The target of a link; faults matter only where strictness is asked for, apart from null
characters. -/
def targetFor (files : Files) (mode : Mode) (place : Location) : Except Fault (Option Chars) :=
  match files.linkTarget? place, mode with
  | .error (.system _ _), .lenient => .ok none
  | result, _ => result

/-- What comes of a link that leads through itself. -/
def onLoop (files : Files) (mode : Mode) (link : Location) (rest : List Segment) :
    Except Fault Reached :=
  match mode with
  | .lenient => .ok (.caught (keepRest link rest))
  | .strict =>
    match files.status link with
    | .error fault => .error fault
    | .ok _ => .error (.system .manyLinks (link : Absolute).text)

/-- Follows names from a location. `opened` holds the links that are being followed, and `enter`
follows the target of one more. -/
def followNames (files : Files) (mode : Mode) (opened : List Location)
    (enter : Location → Chars → Except Fault Reached) :
    Location → List Segment → Except Fault Reached
  | place, [] => .ok (.done place)
  | place, name :: rest =>
    if name = [] ∨ name = Path.dot then followNames files mode opened enter place rest
    else if name = Path.dotDot then followNames files mode opened enter place.dropLast rest
    else
      let next := place ++ [name]
      match files.targetFor mode next with
      | .error fault => .error fault
      | .ok none => followNames files mode opened enter next rest
      | .ok (some target) =>
        if opened.contains next then files.onLoop mode next rest
        else match enter next target with
          | .error fault => .error fault
          | .ok (.done end') => followNames files mode opened enter end' rest
          | .ok (.caught end') => .ok (.caught (keepRest end' rest))

/-- Follows names from a location, with links within links no deeper than a bound. -/
def follow (files : Files) (mode : Mode) :
    Nat → List Location → Location → List Segment → Except Fault Reached
  | 0, opened => followNames files mode opened fun link _ => files.onLoop mode link []
  | depth + 1, opened => followNames files mode opened fun link target =>
    let (start, names) := startOf link.dropLast target
    files.follow mode depth (link :: opened) start names

/-- Links within links are no deeper than there are links. -/
def followFrom (files : Files) (mode : Mode) (place : Location) (names : List Segment) :
    Except Fault Reached :=
  files.follow mode (files.nodes.length + 1) [] place names

inductive Unresolved where
  | blocked (fault : Fault)
  | loop (path : String)
  deriving DecidableEq, Repr

def loopText (path : String) : String := "Symlink loop from " ++ Text.quoted path

def Unresolved.message : Unresolved → String
  | .blocked fault => fault.message
  | .loop path => loopText path

def Unresolved.of : Fault → Unresolved
  | .system .manyLinks path => .loop path
  | fault => .blocked fault

/-- The canonical location of a path from a directory, if everything on the way is there. -/
def resolveStrict (files : Files) (directory : Location) (path : Chars) :
    Except Unresolved Location :=
  let (place, names) := startOf directory path
  match files.followFrom .strict place names with
  | .ok (.done place) => .ok place
  | .ok (.caught place) => .ok place
  | .error fault => .error (.of fault)

/-- The canonical location of a path from a directory, whether or not it leads anywhere. -/
def resolveLenient (files : Files) (directory : Location) (path : Chars) :
    Except Unresolved Location := do
  let (place, names) := startOf directory path
  let place ← match files.followFrom .lenient place names with
    | .ok (.done place) => .ok place
    | .ok (.caught place) => .ok (Path.collapse true place)
    | .error fault => .error (.of fault)
  match files.status place with
  | .error (.system .manyLinks path) => .error (.loop path)
  | .error .nullCharacter => .error (.blocked .nullCharacter)
  | _ => .ok place

end StorefrontSurvey.Files
