import StorefrontSurvey.Path.Absolute
import StorefrontSurvey.Text.Quoted
/-!
Directories, files and links: what stands at each location, how a path is followed, and what is
reported when it leads nowhere.
-/
namespace StorefrontSurvey

open StorefrontSurvey.Path (Chars Segment Location Absolute)

/-- When something was changed last, and how large it is. -/
structure Files.Stamp where
  modified : Int
  size : Nat
  deriving DecidableEq, Repr

/-- What stands at a location. The stamp of a directory is up to the surroundings; it may not be
known. -/
inductive Files.Node where
  | directory (stamp? : Option Files.Stamp)
  | file (content : List UInt8) (modified : Int)
  | link (target : Chars)
  deriving DecidableEq, Repr

def Files.Node.stamp? : Files.Node → Option Files.Stamp
  | directory stamp? => stamp?
  | file content modified => some ⟨modified, content.length⟩
  | link _ => none

structure Files where
  nodes : List (Location × Files.Node)
  deriving Repr

namespace Files

/-- The top directory is always there. -/
def node? (files : Files) : Location → Option Node
  | [] => some (.directory none)
  | place => files.nodes.lookup place

def isDirectory (files : Files) (place : Location) : Bool :=
  match files.node? place with
  | some (.directory _) => true
  | _ => false

/-! ### Faults -/

inductive Cause where
  | missing
  | notDirectory
  | isDirectory
  | nameTooLong
  | manyLinks
  deriving DecidableEq, Repr

namespace Cause

def number : Cause → Nat
  | missing => 2
  | notDirectory => 20
  | isDirectory => 21
  | nameTooLong => 36
  | manyLinks => 40

def text : Cause → String
  | missing => "No such file or directory"
  | notDirectory => "Not a directory"
  | isDirectory => "Is a directory"
  | nameTooLong => "File name too long"
  | manyLinks => "Too many levels of symbolic links"

end Cause

inductive Fault where
  | system (cause : Cause) (path : String)
  /-- The path holds the null character. -/
  | nullCharacter
  deriving DecidableEq, Repr

def numbered (number : Nat) (text path : String) : String :=
  "[Errno " ++ toString number ++ "] " ++ text ++ ": " ++ Text.quoted path

def Fault.message : Fault → String
  | .system cause path => numbered cause.number cause.text path
  | .nullCharacter => "embedded null byte"

/-! ### Following a path -/

def byteLength (chars : Chars) : Nat := chars.foldr (fun c n => c.utf8Size + n) 0

def longestName : Nat := 255

def longestPath : Nat := 4095

/-- The most links that are followed on the way along one path. -/
def mostLinks : Nat := 40

/-- Where a path that is taken from a directory starts, and the names in it. -/
def startOf (directory : Location) (path : Chars) : Location × List Segment :=
  (if path.head? = some '/' then [] else directory, Path.splitSlash path)

/-- Follows names from a location. A link in the last place is followed only if asked for; `enter`
follows the links. -/
def walkNames (files : Files) (followLast : Bool)
    (enter : Location → List Segment → Except Cause Location) :
    Location → List Segment → Except Cause Location
  | place, [] => .ok place
  | place, name :: rest =>
    if !files.isDirectory place then .error .notDirectory
    else if name = [] ∨ name = Path.dot then walkNames files followLast enter place rest
    else if name = Path.dotDot then walkNames files followLast enter place.dropLast rest
    else if longestName < byteLength name then .error .nameTooLong
    else match files.node? (place ++ [name]) with
      | none => .error .missing
      | some (.link target) =>
        if rest.isEmpty && !followLast then .ok (place ++ [name])
        else
          let (start, names) := startOf place target
          enter start (names ++ rest)
      | some _ => walkNames files followLast enter (place ++ [name]) rest

/-- Follows names from a location, through no more than so many links. -/
def walk (files : Files) (followLast : Bool) :
    Nat → Location → List Segment → Except Cause Location
  | 0 => walkNames files followLast fun _ _ => .error .manyLinks
  | links + 1 => walkNames files followLast (walk files followLast links)

def locate (files : Files) (followLast : Bool) (path : Absolute) : Except Fault Location :=
  if path.chars.contains '\x00' then .error .nullCharacter
  else if longestPath < byteLength path.chars then .error (.system .nameTooLong path.text)
  else match files.walk followLast mostLinks [] path.location with
    | .ok place => .ok place
    | .error cause => .error (.system cause path.text)

def status (files : Files) (path : Absolute) : Except Fault Node := do
  let place ← files.locate true path
  match files.node? place with
  | some node => return node
  | none => throw (.system .missing path.text)

/-- The target of a link at a path; none if something else stands there. -/
def linkTarget? (files : Files) (path : Absolute) : Except Fault (Option Chars) := do
  let place ← files.locate false path
  match files.node? place with
  | some (.link target) => return some target
  | _ => return none

/-- The content of the file that a path leads to. -/
def content (files : Files) (path : Absolute) : Except Fault (List UInt8) := do
  match ← files.status path with
  | .file bytes _ => return bytes
  | _ => throw (.system .isDirectory path.text)

/-- Whether a path leads anywhere. A fault other than a wrong turn is reported. -/
def leadsSomewhere (files : Files) (path : Absolute) : Except Fault Bool :=
  match files.status path with
  | .ok _ => .ok true
  | .error (.system .nameTooLong place) => .error (.system .nameTooLong place)
  | .error _ => .ok false

end Files

end StorefrontSurvey
