import StorefrontSurvey.Text.LowerCase
import StorefrontSurvey.Text.Within
/-!
Paths as they are written: segments between slashes, and the normal form that collapses empty, `.`
and `..` segments without looking at any file.
-/
namespace StorefrontSurvey.Path

abbrev Chars := List Char

abbrev Segment := List Char

def dot : Segment := ['.']

def dotDot : Segment := ['.', '.']

/-- The segments between slashes; a text without slashes is one segment. -/
def splitSlash : Chars → List Segment
  | [] => [[]]
  | c :: rest =>
    if c = '/' then [] :: splitSlash rest
    else match splitSlash rest with
      | [] => [[c]]
      | s :: more => (c :: s) :: more

def joinSlash : List Segment → Chars
  | [] => []
  | [s] => s
  | s :: t :: more => s ++ '/' :: joinSlash (t :: more)

/-- Backslashes read as slashes. -/
def unifySlashes (path : Chars) : Chars := path.map fun c => if c = '\\' then '/' else c

/-- The slashes that a normal form keeps in front: two if there are exactly two, one if there are
one or more than two. -/
def leadingSlashes (path : Chars) : Nat :=
  match path with
  | '/' :: '/' :: '/' :: _ => 1
  | '/' :: '/' :: _ => 2
  | '/' :: _ => 1
  | _ => 0

/-- Adds a segment to collapsed segments, the last one first. Going up removes the segment before;
it stays where there is none, unless the path starts at the root. -/
def pushSegment (rooted : Bool) (kept : List Segment) (s : Segment) : List Segment :=
  if s = [] ∨ s = dot then kept
  else if s = dotDot then
    match kept with
    | [] => if rooted then [] else [dotDot]
    | top :: below => if top = dotDot then dotDot :: kept else below
  else s :: kept

/-- Segments with empty, `.` and `..` ones collapsed. -/
def collapse (rooted : Bool) (segments : List Segment) : List Segment :=
  (segments.foldl (pushSegment rooted) []).reverse

/-- The normal form of a path whose only separator is the slash. -/
def normalText (path : Chars) : Chars :=
  let slashes := leadingSlashes path
  let body := joinSlash (collapse (slashes ≠ 0) (splitSlash path))
  let whole := List.replicate slashes '/' ++ body
  if whole = [] then dot else whole

/-- The normal form of a path that may also use backslashes. -/
def normalize (path : String) : String :=
  String.ofList (normalText (unifySlashes path.toList))

/-- Whether a path climbs out through a `..` segment even in normal form. -/
def climbsOut (path : String) : Bool :=
  (splitSlash (normalize path).toList).contains dotDot

/-- The last segment of a path that may also use backslashes. -/
def lastSegment (path : String) : String :=
  String.ofList ((splitSlash (unifySlashes path.toList)).getLast?.getD [])

/-! ### Module directories -/

def modulesMark : Chars := "/modules/".toList

/-- Where a path first enters a directory of `modules`: what stands before that, and the directory's
name. The directory needs a slash on both sides and a name that is not empty. -/
structure ModuleSpan where
  before : Chars
  name : Segment
  deriving DecidableEq, Repr

def moduleSpan? : Chars → Option ModuleSpan
  | [] => none
  | c :: rest =>
    let here := if modulesMark.isPrefixOf (c :: rest) then
        let after := (c :: rest).drop modulesMark.length
        let name := after.takeWhile (· ≠ '/')
        if name ≠ [] ∧ name.length < after.length then some (⟨[], name⟩ : ModuleSpan) else none
      else none
    match here with
    | some e => some e
    | none => (moduleSpan? rest).map fun e => { e with before := c :: e.before }

def moduleName? (path : String) : Option String :=
  (moduleSpan? (normalize path).toList).map fun e => String.ofList e.name

/-! ### File suffixes -/

/-- The last name of a path, with empty and `.` segments left out; empty if there is none. -/
def fileName (path : Chars) : Segment :=
  ((splitSlash path).filter fun s => s ≠ [] ∧ s ≠ dot).getLast?.getD []

/-- The part of a name from its last dot on. A dot at either end of the name starts no suffix. -/
def suffixOf (name : Segment) : Chars :=
  let afterDot := (name.reverse.takeWhile (· ≠ '.')).reverse
  let before := name.length - afterDot.length
  if before ≤ 1 ∨ afterDot = [] then [] else '.' :: afterDot

/-- The suffix of a path's last name in lower case. -/
def suffix (path : String) : String :=
  Text.lower (String.ofList (suffixOf (fileName path.toList)))

end StorefrontSurvey.Path
