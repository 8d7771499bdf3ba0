import StorefrontSurvey.Path.Lexical
/-!
Paths from the top directory, and what such a path is from another one.
-/
namespace StorefrontSurvey.Path

/-- The names that lead from the top directory to a place. -/
abbrev Location := List Segment

/-- A path that starts at the top directory. Two slashes in front are kept as they are written; they
lead to the same place as one. -/
structure Absolute where
  location : Location
  doubled : Bool := false
  deriving DecidableEq, Repr

namespace Absolute

def chars (path : Absolute) : Chars :=
  (if path.doubled then ['/', '/'] else ['/']) ++ joinSlash path.location

def text (path : Absolute) : String := String.ofList path.chars

instance : Coe Location Absolute := ⟨fun location => { location }⟩

/-- The directory that a path lies in; the top directory lies in itself. -/
def parent (path : Absolute) : Absolute := { path with location := path.location.dropLast }

/-- The directories above a path from the nearest one to the top. `depth` is how many there are. -/
def above (path : Absolute) : Nat → List Absolute
  | 0 => []
  | depth + 1 => path.parent :: path.parent.above depth

def parents (path : Absolute) : List Absolute := path.above path.location.length

/-- Whether a path, as it is written, is another one or goes on from it. -/
def isWithin (path root : Absolute) : Bool :=
  let directory := if root.chars.getLast? = some '/' then root.chars else root.chars ++ ['/']
  path == root || directory.isPrefixOf path.chars

end Absolute

def isAbsolute (path : String) : Bool := path.toList.head? = some '/'

/-- A path taken from a directory, unless it starts at the top itself. -/
def joined (directory : Location) (path : Chars) : Chars :=
  if path.head? = some '/' then path
  else if directory.isEmpty then '/' :: path
  else (directory : Absolute).chars ++ '/' :: path

/-- The place that a path from a directory leads to if no link is followed. -/
def fromDirectory (directory : Location) (path : Chars) : Absolute :=
  let whole := joined directory path
  ⟨collapse true (splitSlash whole), leadingSlashes whole = 2⟩

/-- How many names two locations share in front. -/
def sharedLength : Location → Location → Nat
  | a :: as, b :: bs => if a = b then sharedLength as bs + 1 else 0
  | _, _ => 0

def wayFrom (directory place : Location) : Chars :=
  let shared := sharedLength directory place
  let way := List.replicate (directory.length - shared) dotDot ++ place.drop shared
  if way = [] then dot else joinSlash way

def meaningful (path : Chars) : List Segment :=
  (splitSlash path).filter fun s => s ≠ [] ∧ s ≠ dot

/-- A path without empty and `.` segments. -/
def tidyText (path : Chars) : Chars :=
  let whole := List.replicate (leadingSlashes path) '/' ++ joinSlash (meaningful path)
  if whole = [] then dot else whole

def tidy (path : String) : String := String.ofList (tidyText path.toList)

end StorefrontSurvey.Path
