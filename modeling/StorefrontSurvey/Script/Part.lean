import StorefrontSurvey.Script.Source
import StorefrontSurvey.Script.Automaton
/-!
Parts: the trees that a parser puts together. A part knows where it lies, what it costs (text that
was skipped or made up is charged for) and how many shown parts it has.
-/
namespace StorefrontSurvey.Script

inductive PartKind where
  /-- A lexeme or the result of a production, by symbol. -/
  | symbol (symbol : Nat)
  /-- Text that fits nowhere, with what was found in it. -/
  | error
  /-- A stretch of skipped text while more may be skipped. -/
  | skipped
  deriving DecidableEq, Repr, Inhabited

structure PartInfo where
  kind : PartKind
  /-- Where the separators before the part begin. -/
  outerStart : Nat
  start : Nat
  stop : Nat
  /-- The part may stand anywhere and is no place of a production. -/
  extra : Bool
  /-- The part was made up. -/
  missing : Bool
  /-- A name that is also a keyword somewhere. -/
  keyword : Bool
  shape? : Option Nat
  cost : Nat
  /-- Shown parts at any depth. -/
  descendants : Nat
  /-- Shown parts at the next shown level. -/
  shownChildren : Nat
  weight : Int
  deriving Inhabited

inductive Part where
  | mk (info : PartInfo) (children : List Part)
  deriving Inhabited

namespace Part

def info : Part → PartInfo
  | mk i _ => i

def children : Part → List Part
  | mk _ cs => cs

def isError (p : Part) : Bool := p.info.kind == .error

def isExtra (p : Part) : Bool := p.info.extra

/-- A part of the error kind or a stretch of skipped text. -/
def holdsSkippedText (k : PartKind) : Bool := k == .error || k == .skipped

/-- What one stretch of trouble costs, whatever its size. -/
def costOfRecovery : Nat := 500

def costOfMissing : Nat := 110

def costOfSkippedPart : Nat := 100

def costOfSkippedRow : Nat := 30

def costOfSkippedByte : Nat := 1

def isShownKind (g : Vocabulary) : PartKind → Bool
  | .symbol s => (g.appearances.getD s default).visible
  | .error => true
  | .skipped => false

def isShown (g : Vocabulary) (p : Part) : Bool := isShownKind g p.info.kind

def ofLexeme (kind : PartKind) (outerStart start stop : Nat) (keyword : Bool) : Part :=
  mk { kind, outerStart, start, stop, extra := kind == .symbol 0, missing := false, keyword
       shape? := none, cost := 0, descendants := 0, shownChildren := 0, weight := 0 } []

def ofMissing (symbol at_ : Nat) : Part :=
  mk { kind := .symbol symbol, outerStart := at_, start := at_, stop := at_, extra := false
       missing := true, keyword := false, shape? := none
       cost := costOfMissing + costOfRecovery
       descendants := 0, shownChildren := 0, weight := 0 } []

def setExtra (p : Part) (extra : Bool) : Part :=
  match p with
  | mk i cs => mk { i with extra } cs

def setKind (p : Part) (kind : PartKind) : Part :=
  match p with
  | mk i cs => mk { i with kind } cs

def addWeight (p : Part) (w : Int) : Part :=
  match p with
  | mk i cs => mk { i with weight := i.weight + w } cs

/-- What skipping a child costs inside a part of skipped text. -/
def skippedCost (g : Vocabulary) (child : Part) : Nat :=
  if child.isExtra || (child.isError && child.children.isEmpty) then 0
  else if child.isShown g then costOfSkippedPart
  else if child.children.isEmpty then 0
  else costOfSkippedPart * child.info.shownChildren

/-- The labels that a production gives to its places. -/
def labelAt (g : Vocabulary) (shape? : Option Nat) (place : Nat) : Option Label :=
  match shape? with
  | none => none
  | some n => ((g.shapes.getD n [])[place]?).bind (·.label)

/-- Counts over a part's children: cost, shown descendants, shown children, weight and the place
that the next child takes in the production. -/
structure Tally where
  cost : Nat
  descendants : Nat
  shown : Nat
  weight : Int
  place : Nat

def Tally.add (g : Vocabulary) (kind : PartKind) (shape? : Option Nat) (t : Tally)
    (child : Part) : Tally :=
  let i := child.info
  let cost := if i.kind == .skipped then 0 else i.cost
  let skipped := if holdsSkippedText kind then skippedCost g child else 0
  let labelled := !i.extra && i.kind != .symbol 0 && (labelAt g shape? t.place).isSome
  let shownSelf := labelled || child.isShown g
  { cost := t.cost + cost + skipped
    descendants := t.descendants + i.descendants + (if shownSelf then 1 else 0)
    shown := t.shown + (if shownSelf then 1 else if child.children.isEmpty then 0
      else i.shownChildren)
    weight := t.weight + i.weight
    place := if i.extra then t.place else t.place + 1 }

/-- A part over children. Without children it lies at the given position. -/
def ofChildren (g : Vocabulary) (s : Source) (kind : PartKind) (shape? : Option Nat)
    (children : List Part) (at_ : Nat) : Part :=
  let t := children.foldl (Tally.add g kind shape?) ⟨0, 0, 0, 0, 0⟩
  let outerStart := (children.head?.map (·.info.outerStart)).getD at_
  let start := (children.head?.map (·.info.start)).getD at_
  let stop := (children.getLast?.map (·.info.stop)).getD at_
  let own := if holdsSkippedText kind then
      costOfRecovery + costOfSkippedByte * (s.byteAt stop - s.byteAt start) +
        costOfSkippedRow * (s.rowAt stop - s.rowAt start)
    else 0
  mk { kind, outerStart, start, stop, extra := false, missing := false, keyword := false
       shape?, cost := t.cost + own, descendants := t.descendants, shownChildren := t.shown
       weight := t.weight } children

/-- How much a part counts for when progress is measured. -/
def count (g : Vocabulary) (p : Part) : Nat :=
  p.info.descendants + (if p.isShown g then 1 else 0) +
    (if p.info.kind == .skipped then 1 else 0)

private def rankOfKind : PartKind → Nat
  | .symbol s => s
  | .skipped => 65534
  | .error => 65535

/-- Compares two parts by symbol, then by number of children, then by their children. -/
def compare : Part → Part → Ordering
  | mk i cs, mk j ds =>
    match Ord.compare (rankOfKind i.kind) (rankOfKind j.kind) with
    | .eq => match Ord.compare cs.length ds.length with
      | .eq => compareLists cs ds
      | o => o
    | o => o
where
  compareLists : List Part → List Part → Ordering
    | c :: cs, d :: ds => match compare c d with
      | .eq => compareLists cs ds
      | o => o
    | _, _ => .eq

/-- Whether a second reading of the same text is taken instead of the first: it costs less, or it
weighs more at the same cost, or it comes first in the order of parts. -/
def prefersSecond (first second : Part) : Bool :=
  if second.info.cost < first.info.cost then true
  else if first.info.cost < second.info.cost then false
  else if second.info.weight > first.info.weight then true
  else if first.info.weight > second.info.weight then false
  else if first.info.cost > 0 then true
  else compare first second == .gt

/-- Whether two parts count as the same when two readings meet. -/
def isEquivalent (a b : Part) : Bool :=
  let i := a.info
  let j := b.info
  if i.kind != j.kind then false
  else if i.cost > 0 && j.cost > 0 then true
  else i.outerStart == j.outerStart && i.start == j.start && i.stop == j.stop &&
    a.children.length == b.children.length && i.extra == j.extra

end Part
end StorefrontSurvey.Script
