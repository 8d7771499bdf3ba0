import StorefrontSurvey.Script.Item
/-!
Cores: sets of items that a parser can be in the middle of, without the lexemes that may follow
them. All states with one core are alike but for those lexemes, so a core holds everything that can
be worked out once: the items that end here, the items after each symbol, and for each of them which
lexemes may follow, told by which items of the core hand theirs on.
-/
namespace StorefrontSurvey.Script

open Std (HashMap)

/-- The lexemes that may follow an item, as far as a core knows them. -/
structure Lookahead where
  /-- Lexemes that may follow whatever state it is. -/
  fixed : Bits
  /-- The places in the core of the items whose following lexemes may follow too. -/
  origins : Bits
  deriving Inhabited

namespace Lookahead

def join (a b : Lookahead) : Lookahead := ⟨a.fixed.union b.fixed, a.origins.union b.origins⟩

end Lookahead

/-- A look-ahead made ready to be read off a state. -/
structure FollowRule where
  fixed : Bits
  origins : List Nat
  deriving Inhabited

def Lookahead.rule (l : Lookahead) : FollowRule := ⟨l.fixed, l.origins.toList⟩

/-- The lexemes that may follow in a state, given those after each item of its core. -/
def FollowRule.read (r : FollowRule) (sets : Array Bits) : Bits :=
  r.origins.foldl (fun s i => s.union (sets.getD i 0)) r.fixed

/-- An item that opens a rule, and what may follow it there. -/
structure Opening where
  item : Nat
  follow : Bits
  /-- What may follow the opened rule may follow the item too. -/
  handsOn : Bool
  deriving Inhabited

namespace Items

def productionsOf (t : Items) : Array (List Nat) :=
  (List.range t.productions.size).reverse.foldl (fun acc i =>
    acc.modify (t.productions.getD i default).result (i :: ·))
    (Array.replicate (t.grammar.symbolCount + 1) [])

/-- Spreads what may follow a rule to the rules that it can open with. -/
def spreadOpenings (t : Items) (productions : Array (List Nat)) :
    Nat → List (Nat × Bits × Bool) → HashMap Nat (Bits × Bool) → HashMap Nat (Bits × Bool)
  | 0, _, known => known
  | _, [], known => known
  | fuel + 1, (rule, follow, handsOn) :: rest, known =>
    let new := match known[rule]? with
      | none => some (follow, handsOn)
      | some (f, h) =>
        if f.union follow == f && (h || !handsOn) then none
        else some (f.union follow, h || handsOn)
    match new with
    | none => spreadOpenings t productions fuel rest known
    | some entry =>
      let next := (productions.getD rule []).filterMap fun p =>
        match (t.places.getD p #[])[0]?, (t.places.getD p #[])[1]? with
        | none, _ => none
        | some q, none => if t.isRule q.symbol then some (q.symbol, entry) else none
        | some q, some r =>
          if t.isRule q.symbol then some (q.symbol, t.firstOf r.symbol, false) else none
      spreadOpenings t productions fuel (next ++ rest) (known.insert rule entry)

def openings (t : Items) : Array (List Opening) :=
  let productions := t.productionsOf
  (List.range t.grammar.symbolCount).toArray.map fun symbol =>
    if t.isRule symbol then
      (t.spreadOpenings productions 1000000 [(symbol, 0, true)] ∅).fold
        (fun acc rule (follow, handsOn) =>
          (productions.getD rule []).foldl (fun acc p =>
            ⟨t.number p 0, follow, handsOn⟩ :: acc) acc) []
    else []

end Items

inductive Ending where
  /-- Build a symbol from a number of parts; the weight and the shape of the production. -/
  | reduce (result size : Nat) (weight : Int) (shape : Nat)
  | accept
  deriving DecidableEq, Repr, Inhabited

structure EndedItem where
  ending : Ending
  /-- The symbol that the item's production builds. -/
  result : Nat
  rank : Rank
  side : Option Side
  follow : FollowRule
  deriving Inhabited

structure OpenItem where
  result : Nat
  rank : Rank
  /-- The lexemes that the rest of the item can start with. -/
  first : Bits
  deriving Inhabited

structure Step where
  symbol : Nat
  kernel : List Nat
  follows : List FollowRule
  deriving Inhabited

structure Core where
  ended : List EndedItem
  opened : List OpenItem
  /-- In the order of the symbols, lexemes first. -/
  steps : Array Step
  /-- Lexemes with a step. -/
  shifts : Bits
  deriving Inhabited

/-- Shapes by number in the order in which they are met; number zero is the bare shape. -/
structure Shapes where
  all : Array Shape
  numbers : HashMap (List (Option (String × Bool) × Option String × List String)) Nat
  deriving Inhabited

namespace Shapes

def empty : Shapes := ⟨#[[]], HashMap.ofList [([], 0)]⟩

def number (s : Shapes) (shape : Shape) : Nat × Shapes :=
  let key := shape.map fun p => (p.label.map fun l => (l.name, l.named), p.field, p.inherited)
  match s.numbers[key]? with
  | some n => (n, s)
  | none => (s.all.size, ⟨s.all.push shape, s.numbers.insert key s.all.size⟩)

end Shapes

namespace Items

/-- The items of a core and all that they open, each with what may follow. -/
def close (t : Items) (openings : Array (List Opening)) (kernel : List Nat) :
    HashMap Nat Lookahead :=
  let add := fun (known : HashMap Nat Lookahead) (item : Nat) (l : Lookahead) =>
    match known[item]? with
    | some k => known.insert item (k.join l)
    | none => known.insert item l
  kernel.zipIdx.foldl (fun known (item, i) =>
    let own : Lookahead := ⟨0, Bits.single i⟩
    let known := match t.placeAt item 0 with
      | some q =>
        if t.isRule q.symbol then
          let after := match t.placeAt item 1 with
            | some r => ⟨t.firstOf r.symbol, 0⟩
            | none => own
          (openings.getD q.symbol []).foldl (fun known o =>
            let direct : Lookahead := ⟨o.follow, 0⟩
            add known o.item (if o.handsOn then direct.join after else direct)) known
        else known
      | none => known
    add known item own) ∅

/-- Items with their look-ahead in order, equal items joined. -/
def inOrder (entries : List (Nat × Lookahead)) : List (Nat × Lookahead) :=
  (entries.mergeSort fun a b => a.1 ≤ b.1).foldr (fun e acc => match acc with
    | (item, l) :: rest => if item = e.1 then (item, e.2.join l) :: rest else e :: acc
    | [] => [e]) []

def stepsOf (t : Items) (closed : List (Nat × Lookahead)) : Array Step :=
  let bySymbol := closed.foldl (fun (acc : HashMap Nat (List (Nat × Lookahead))) (item, l) =>
    match t.placeAt item 0 with
    | none => acc
    | some q => acc.alter q.symbol fun es => some ((t.advance item, l) :: es.getD [])) ∅
  let ordered := bySymbol.toList.mergeSort fun a b =>
    t.grammar.ordinal a.1 ≤ t.grammar.ordinal b.1
  (ordered.map fun (symbol, es) =>
    let es := inOrder es
    ({ symbol, kernel := es.map (·.1), follows := es.map (·.2.rule) } : Step)).toArray

/-- What is worked out for a core, given by its items in order. -/
def core (t : Items) (openings : Array (List Opening)) (kernel : List Nat) (shapes : Shapes) :
    Core × Shapes :=
  let closed := (t.close openings kernel).toList.mergeSort fun a b => a.1 ≤ b.1
  let (ended, shapes) := closed.foldr (fun (item, l) (acc : List EndedItem × Shapes) =>
    match t.placeAt item 0 with
    | some _ => acc
    | none =>
      let p := t.production item
      let passed := t.passed? item
      let (ending, shapes) :=
        if p.result = whole t.grammar then (Ending.accept, acc.2)
        else
          let (n, shapes) := acc.2.number (t.shape item)
          (Ending.reduce p.result (t.mark item) p.weight n, shapes)
      ({ ending, result := p.result, rank := (passed.map (·.rank)).getD .unranked
         side := passed.bind (·.side), follow := l.rule } :: acc.1, shapes)) ([], shapes)
  let opened := kernel.filterMap fun item =>
    if t.mark item = 0 then none
    else match t.placeAt item 0 with
      | none => none
      | some q => some
        { result := (t.production item).result
          rank := ((t.passed? item).map (·.rank)).getD .unranked
          first := t.firstOf q.symbol }
  let steps := t.stepsOf closed
  let shifts := steps.foldl (fun s step =>
    if t.isRule step.symbol then s else s.insert step.symbol) 0
  ({ ended, opened, steps, shifts }, shapes)

end Items
end StorefrontSurvey.Script
