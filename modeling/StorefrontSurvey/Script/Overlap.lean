import StorefrontSurvey.Script.Machine
/-!
How the lexemes of a grammar compete. Two lexemes are read side by side over all texts at once, and
what happens where one of them ends is noted. Which lexemes may be expected together, which are
keywords and which can be told apart in damaged text all follow from these notes.
-/
namespace StorefrontSurvey.Script

structure Overlap where
  /-- It is taken at its end where the other one could go on. -/
  cutsShort : Bool
  /-- It goes on where the other one has ended. -/
  goesBeyond : Bool
  /-- It goes on where the other one has ended, with a character that may follow the other one. -/
  goesBeyondNext : Bool
  /-- It ends where separators may still come. -/
  endsAmongSeparators : Bool
  /-- It is taken where both end. -/
  winsTie : Bool
  /-- There is a text that it may match and the other one may not. -/
  standsAlone : Bool
  deriving DecidableEq, Repr, Inhabited

namespace Overlap

def none : Overlap := ⟨false, false, false, false, false, false⟩

/-- What lexemes that open differently are to each other. -/
def apart : Overlap := { none with standsAlone := true }

/-- The lexeme may be read where the other one is meant, or the other way around. -/
def conflicts (o : Overlap) : Bool := o.goesBeyondNext || o.endsAmongSeparators || o.winsTie

/-- Some text belongs to both lexemes. -/
def overlaps (o : Overlap) : Bool :=
  o.endsAmongSeparators || o.cutsShort || o.winsTie || o.goesBeyond

end Overlap

namespace Machine

/-- The notes on two lexemes, with a note added to the side of one of them. -/
def note (first lexeme : Nat) (f : Overlap → Overlap) (notes : Overlap × Overlap) :
    Overlap × Overlap :=
  if lexeme = first then (f notes.1, notes.2) else (notes.1, f notes.2)

/-- What a step tells where a lexeme has ended: the other lexeme may be the only one that makes
it. -/
def noteMove (m : Machine) (nextChars : Nat → CharSet) (first second : Nat) (reader : List Nat)
    (ended : Nat) (chars : CharSet) (step : Move) (notes : Overlap × Overlap) :
    Overlap × Overlap :=
  if step.targets.any fun n => m.owner n == ended then notes
  else if m.goesOn reader ended step then
    let other := if ended = first then second else first
    let meets := chars.meets (nextChars ended)
    note first other (fun o =>
      { o with goesBeyond := true, goesBeyondNext := o.goesBeyondNext || meets }) notes
  else note first ended (fun o => { o with cutsShort := true }) notes

/-- What a set of nodes of two lexemes tells, and the sets that its steps lead to. -/
def compareAt (m : Machine) (nextChars : Nat → CharSet) (first second : Nat) (ns : List Nat)
    (notes : Overlap × Overlap) : (Overlap × Overlap) × List (List Nat) :=
  let owner := m.owner (ns.headD 0)
  if ns.all fun n => m.owner n == owner then
    (note first owner (fun o => { o with standsAlone := true }) notes, [])
  else
    let reader := m.spread ns
    let ends := (reader.filter fun n => match m.node n with
      | .done => true
      | _ => false).map m.owner
    let notes := if reader.any m.isSeparatorNode then
        ends.foldl (fun notes l =>
          note first l (fun o => { o with endsAmongSeparators := true }) notes) notes
      else notes
    let steps := m.moves reader
    let next := steps.map fun e => e.2.targets.mergeSort
    match m.ended? reader with
    | none => (notes, next)
    | some ended =>
      let notes := if ends.any (· ≠ ended) then
          note first ended (fun o => { o with winsTie := true }) notes
        else notes
      (steps.foldl (fun notes e =>
        m.noteMove nextChars first second reader ended e.1 e.2 notes) notes, next)

def compareFrom (m : Machine) (nextChars : Nat → CharSet) (first second : Nat) :
    Nat → List (List Nat) → List (List Nat) → Overlap × Overlap → Overlap × Overlap
  | 0, _, _, notes => notes
  | _, [], _, notes => notes
  | fuel + 1, ns :: rest, seen, notes =>
    let (notes, next) := m.compareAt nextChars first second ns notes
    let fresh := next.filter (!seen.contains ·)
    compareFrom m nextChars first second fuel (fresh ++ rest) (fresh ++ seen) notes

/-- Whether two lexemes may open with the same character, separators in front set aside. -/
def openAlike (openings : Nat → List (CharSet × Move)) (first second : Nat) : Bool :=
  (openings first).any fun a => (openings second).any fun b =>
    a.1.meets b.1 && !(a.2.separator && b.2.separator)

def compare (m : Machine) (openings : Nat → List (CharSet × Move)) (nextChars : Nat → CharSet)
    (first second : Nat) : Overlap × Overlap :=
  if openAlike openings first second then
    let start := [(m.traits first).start, (m.traits second).start]
    m.compareFrom nextChars first second 100000 [start] [] (.none, .none)
  else (.apart, .apart)

end Machine

/-- How every lexeme of a grammar stands to every other one. -/
structure Overlaps where
  rows : Array (Array Overlap)
  deriving Inhabited

namespace Overlaps

def between (o : Overlaps) (a b : Nat) : Overlap := (o.rows.getD a #[]).getD b .none

def conflict (o : Overlaps) (a b : Nat) : Bool := (o.between a b).conflicts

def overlap (o : Overlaps) (a b : Nat) : Bool := (o.between a b).overlaps

/-- The first lexeme may be read on where the second one has ended. -/
def isLonger (o : Overlaps) (a b : Nat) : Bool :=
  ((o.between a b).goesBeyondNext || (o.between a b).endsAmongSeparators) &&
    !(o.between b a).endsAmongSeparators

/-- Compares the lexemes of a list, given which lexemes may follow each of them. -/
def ofMachine (m : Machine) (lexemes : List Nat) (follow : Nat → Bits) : Overlaps :=
  let size := m.lexemes.size
  let openings := (List.range size).toArray.map fun l => m.moves (m.spread [(m.traits l).start])
  let openChars := openings.map fun es => es.foldl (fun cs e => cs.union e.1) 0
  let all := Bits.ofList lexemes
  let nextChars := (List.range size).toArray.map fun l =>
    ((follow l).inter all).toList.foldl (fun cs n => cs.union (openChars.getD n 0)) 0
  let blank := Array.replicate size (Array.replicate size Overlap.none)
  ⟨lexemes.foldl (fun rows a => lexemes.foldl (fun rows b =>
    if b < a then
      let (x, y) := m.compare (openings.getD · []) (nextChars.getD · 0) a b
      (rows.modify a (·.setIfInBounds b x)).modify b (·.setIfInBounds a y)
    else rows) rows) blank⟩

end Overlaps
end StorefrontSurvey.Script
