import StorefrontSurvey.Script.Choice
/-!
All states that reading a text can lead to. A state is a core with the lexemes that may follow each
of its items; state zero, which has no items, stands for an error, and state one is where reading
starts. States and cores are numbered in the order in which they are met.
-/
namespace StorefrontSurvey.Script

open Std (HashMap)

/-- A state as it is told apart from others: a core and the lexemes after each of its items. -/
structure StateKey where
  core : Nat
  sets : Array Bits
  deriving BEq, Inhabited

/-- A small number in which every member of a set counts. -/
def Bits.digest (s : Bits) : UInt64 := hash (s % 4611686018427387847)

instance : Hashable StateKey where
  hash k := k.sets.foldl (fun h s => mixHash h s.digest) (hash k.core)

structure Exploration where
  cores : Array Core
  coreNumbers : HashMap (List Nat) Nat
  /-- For each core, once a state with it has been visited, the cores after its steps, and the
  states after those steps that lead to one state from all states with the core. -/
  coreTargets : Array (Array (Nat × Option Nat))
  keys : Array StateKey
  numbers : HashMap StateKey Nat
  /-- For each visited state the states after its core's steps. -/
  targets : Array (Array Nat)
  shapes : Shapes
  deriving Inhabited

namespace Exploration

def addCore (t : Items) (openings : Array (List Opening)) (kernel : List Nat) (x : Exploration) :
    Nat × Exploration :=
  match x.coreNumbers[kernel]? with
  | some n => (n, x)
  | none =>
    let ⟨cores, coreNumbers, coreTargets, keys, numbers, targets, shapes⟩ := x
    let n := cores.size
    let (core, shapes) := t.core openings kernel shapes
    (n, ⟨cores.push core, coreNumbers.insert kernel n, coreTargets.push #[], keys, numbers,
      targets, shapes⟩)

def addState (key : StateKey) (x : Exploration) : Nat × Exploration :=
  match x.numbers[key]? with
  | some n => (n, x)
  | none =>
    let ⟨cores, coreNumbers, coreTargets, keys, numbers, targets, shapes⟩ := x
    let n := keys.size
    (n, ⟨cores, coreNumbers, coreTargets, keys.push key, numbers.insert key n, targets, shapes⟩)

/-- The state after a step, given the core that it has. -/
def follow (sets : Array Bits) (step : Step) (core : Nat) (x : Exploration) : Nat × Exploration :=
  x.addState ⟨core, step.follows.foldl (fun acc f => acc.push (f.read sets)) #[]⟩

/-- Visits the next state that has not been visited. -/
def visit (t : Items) (openings : Array (List Opening)) (x : Exploration) : Exploration :=
  let key := x.keys.getD x.targets.size default
  let steps := (x.cores.getD key.core default).steps
  let known := x.coreTargets.getD key.core #[]
  let (targets, coreTargets, x) := (List.range steps.size).foldl (fun (ts, cs, x) i =>
    let step := steps.getD i default
    match known[i]? with
    | some (_, some n) => (ts.push n, cs, x)
    | some (core, none) =>
      let (n, x) := follow key.sets step core x
      (ts.push n, cs, x)
    | none =>
      let (core, x) := x.addCore t openings step.kernel
      let (n, x) := follow key.sets step core x
      let always := step.follows.all fun f => f.origins.isEmpty
      (ts.push n, cs.push (core, if always then some n else none), x))
    ((#[] : Array Nat), (#[] : Array (Nat × Option Nat)), x)
  let x := { x with targets := x.targets.push targets }
  if coreTargets.isEmpty then x
  else { x with coreTargets := x.coreTargets.setIfInBounds key.core coreTargets }

def visitAll (t : Items) (openings : Array (List Opening)) : Nat → Exploration → Exploration
  | 0, x => x
  | fuel + 1, x =>
    if x.targets.size < x.keys.size then visitAll t openings fuel (x.visit t openings) else x

/-- More states than any grammar in use has. -/
def mostStates : Nat := 10000000

def ofItems (t : Items) : Exploration :=
  let openings := t.openings
  let empty : Exploration := ⟨#[], ∅, #[], #[], ∅, #[], .empty⟩
  let (none_, x) := empty.addCore t openings []
  let (_, x) := x.addState ⟨none_, #[]⟩
  let (start, x) := x.addCore t openings [t.start]
  let (_, x) := x.addState ⟨start, #[Bits.single 0]⟩
  x.visitAll t openings mostStates

end Exploration

structure States where
  cores : Array Core
  coreOf : Array Nat
  targets : Array (Array Nat)
  choices : Array Choices
  /-- Lexemes with an action in each state, those that may stand anywhere included. -/
  expected : Array Bits
  shapes : Array Shape
  deriving Inhabited

def States.ofItems (t : Items) : States :=
  let x := Exploration.ofItems t
  let extras := Bits.ofList t.grammar.extras
  let (choices, _) := x.keys.foldl (fun (all, known) (key : StateKey) =>
    let (cs, known) := (x.cores.getD key.core default).choices t.grammar key.core key.sets known
    (all.push cs, known)) ((#[] : Array Choices), (∅ : KnownChoices))
  { cores := x.cores
    coreOf := x.keys.map (·.core)
    targets := x.targets
    choices
    expected := choices.map fun cs => cs.lexemes.union extras
    shapes := x.shapes.all }

/-- The sets of lexemes that some state expects. -/
def States.expectedSets (s : States) : List Bits :=
  let buckets := s.expected.foldl (fun (acc : HashMap UInt64 (List Bits)) set =>
    acc.alter set.digest fun known =>
      let known := known.getD []
      some (if known.contains set then known else set :: known)) ∅
  buckets.toList.flatMap (·.2)

end StorefrontSurvey.Script
