import StorefrontSurvey.Schema.Token
/-!
Places in a document, and the excerpts that show them.
-/
namespace StorefrontSurvey.Schema

open Text (Point Wide)

/-- The lines of a text. A line ends with a line feed, a carriage return, or a carriage return and
a line feed. -/
def linesOf : Wide → List Wide
  | [] => [[]]
  | .char '\r' :: .char '\n' :: rest => [] :: linesOf rest
  | point :: rest =>
    if point = .char '\n' ∨ point = .char '\r' then [] :: linesOf rest
    else match linesOf rest with
      | [] => [[point]]
      | line :: more => (point :: line) :: more

/-- A line and a column, both counted from one. -/
structure Place where
  line : Nat
  column : Nat
  deriving DecidableEq, Repr

def placeOf (text : Wide) (position : Nat) : Place :=
  let lines := linesOf (text.take position)
  ⟨lines.length, (lines.getLast?.getD []).length + 1⟩

/-- The text with spaces before it, so that it is at least as wide as asked. -/
def padLeft (width : Nat) (text : String) : String :=
  String.ofList (List.replicate (width - text.length) ' ') ++ text

def labelled (lines : List (String × Wide)) : Wide :=
  let width := (lines.map fun l => l.1.length).foldl max 0
  Wide.joined (.of "\n") (lines.map fun (label, line) =>
    Wide.of (padLeft width label) ++ if line = [] then [] else Wide.of " " ++ line)

/-- Pieces of a line, each of the given width but the last. -/
def pieces (width : Nat) : Nat → Wide → List Wide
  | 0, _ => []
  | _, [] => []
  | fuel + 1, line => line.take width :: pieces width fuel (line.drop width)

/-- Lines up to this width are shown whole. -/
def widestLine : Nat := 120

def pieceWidth : Nat := 80

def caret (column : Nat) : Wide := .of (padLeft column "^")

/-- A place with the lines around it. A long line is shown in pieces, up to the one after the
place. -/
def excerpt (text : Wide) (place : Place) : Wide :=
  let lines := linesOf text
  let line := lines.getD (place.line - 1) []
  let label (n : Nat) : String := toString n ++ " |"
  let head : Wide :=
    .of ("GraphQL request:" ++ toString place.line ++ ":" ++ toString place.column ++ "\n")
  if widestLine < line.length then
    let parts := pieces pieceWidth line.length line
    let index := place.column / pieceWidth
    head ++ labelled (
      (parts.take 1).map (fun p => (label place.line, p)) ++
      ((parts.take (index + 1)).drop 1).map (fun p => ("|", p)) ++
      [("|", caret (place.column % pieceWidth))] ++
      ((parts.drop (index + 1)).take 1).map (fun p => ("|", p)))
  else
    let before := if place.line = 1 then [] else
      [(label (place.line - 1), lines.getD (place.line - 2) [])]
    let after := ((lines.drop place.line).take 1).map fun l => (label (place.line + 1), l)
    head ++ labelled (before ++ [(label place.line, line), ("|", caret place.column)] ++ after)

def located (text message : Wide) (position : Nat) : Wide :=
  message ++ Wide.of "\n\n" ++ excerpt text (placeOf text position)

def SyntaxFault.message (text : Wide) (fault : SyntaxFault) : Wide :=
  located text (Wide.of "Syntax Error: " ++ fault.cause.message (text.drop fault.position))
    fault.position

end StorefrontSurvey.Schema
