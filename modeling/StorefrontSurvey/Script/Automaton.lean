import StorefrontSurvey.Script.Merging
/-!
The automaton of a grammar: for every state what is done on each lexeme, where each symbol leads,
and which reader finds the next lexeme. Its states are the merged states, less those in which
nothing happens but a hidden symbol taking the place of its only part.
-/
namespace StorefrontSurvey.Script

open Std (HashMap)

inductive Action where
  /-- Take the lexeme and go to a state. -/
  | shift (target : Nat)
  /-- Take the lexeme as one half of a repetition, which is never done. -/
  | shiftRepeat
  /-- Take a lexeme that may stand anywhere and stay. -/
  | shiftExtra
  /-- Build a symbol from the topmost parts; the weight and the shape of the production. -/
  | reduce (result size : Nat) (weight : Int) (shape : Nat)
  | accept
  /-- Start looking for a state in which the lexeme fits. -/
  | recover
  deriving DecidableEq, Repr, Inhabited

def Ending.action : Ending → Action
  | .reduce result size weight shape => .reduce result size weight shape
  | .accept => .accept

/-- What building a tree needs to know of the symbols. -/
structure Vocabulary where
  appearances : Array Appearance
  shapes : Array Shape
  lexemeCount : Nat
  /-- The lexeme of all words that are no keywords. -/
  word : Nat
  deriving Inhabited

structure State where
  choices : Choices
  /-- Lexemes with an action. -/
  expected : Bits
  /-- The place of each symbol's step among the targets. -/
  steps : HashMap Nat Nat
  targets : Array Nat
  reader : Nat
  deriving Inhabited

namespace State

def target? (s : State) (symbol : Nat) : Option Nat := (s.steps[symbol]?).bind (s.targets[·]?)

def choice? (s : State) (lexeme : Nat) : Option Choice :=
  (s.choices.find? (·.1.has lexeme)).map (·.2)

end State

structure Automaton where
  vocabulary : Vocabulary
  states : Array State
  readers : Array Reader
  machine : Machine
  /-- Lexemes that may stand anywhere. -/
  extras : Bits
  keywords : Bits
  deriving Inhabited

/-! ### Merged states -/

namespace Grouping

/-- A group of states as one state whose targets are groups. -/
def blend (g : Grouping) (s : States) (steps : Array (HashMap Nat Nat)) (members : List Nat) :
    State :=
  let first := members.headD 0
  { choices := members.foldl (fun acc state =>
      (s.choices.getD state []).foldl (fun acc e => acc.add e.1 e.2) acc) []
    expected := members.foldl (fun acc state => acc.union (s.expected.getD state 0)) 0
    steps := steps.getD (s.coreOf.getD first 0) ∅
    targets := (s.targets.getD first #[]).map fun t => g.groupOf.getD t 0
    reader := 0 }

/-- All groups as states. In damaged text the first one looks for all that can be told apart. -/
def blendAll (g : Grouping) (s : States) (damaged : Bits) : Array State :=
  let steps := s.cores.map fun c =>
    HashMap.ofList (c.steps.toList.zipIdx.map fun e => (e.1.symbol, e.2))
  (g.groups.map (g.blend s steps)).modify 0 fun st => { st with expected := damaged }

end Grouping

/-! ### Vanishing states -/

namespace Productions

/-- Hidden symbols that are never shown under a label and are no group of rules. -/
def fleeting (g : Productions) : Bits :=
  let labelled := g.productions.foldl (fun acc p => p.places.foldl (fun acc q =>
    if q.label.isSome then Bits.insert acc q.symbol else acc) acc) 0
  Bits.ofList ((List.range g.symbolCount).filter fun s =>
    !g.isLexeme s && g.kinds.getD s .named ≠ .named && !g.relabelled.getD s false &&
      !g.groups.contains s && !g.extras.contains s && !labelled.has s)

end Productions

namespace State

/-- The fleeting symbol that a state builds from one bare part, if that is all it does. -/
def vanishing? (fleeting : Bits) (s : State) : Option Nat :=
  if s.choices.any (·.2.taking ≠ .refused) then none
  else
    let endings : List Ending := s.choices.flatMap fun e => e.2.endings
    match endings with
    | .reduce result 1 0 0 :: rest =>
      if fleeting.has result && rest.all (· = .reduce result 1 0 0) then some result else none
    | _ => none

/-- The target that stands for a target once vanishing states are passed over. -/
def passOver (vanishing : Array (Option Nat)) (s : State) : Nat → Nat → Nat
  | 0, t => t
  | fuel + 1, t =>
    match (vanishing.getD t none).bind s.target? with
    | some u => if u = t then t else passOver vanishing s fuel u
    | none => t

def openSteps (lexemeCount : Nat) (s : State) : List (Nat × Nat) :=
  let taken := s.choices.taken
  s.steps.toList.filter fun e => e.1 ≥ lexemeCount || taken.has e.1

/-- The number of symbols with an action or a target. -/
def entryCount (lexemeCount : Nat) (s : State) : Nat :=
  s.expected.toList.length + (s.steps.toList.filter (·.1 ≥ lexemeCount)).length

end State

namespace Automaton

def errorState : Nat := 0

def startState : Nat := 1

/-- The states with those passed over that vanish. -/
def withoutVanishing (fleeting : Bits) (states : Array State) : Array State :=
  let vanishing := states.map (·.vanishing? fleeting)
  states.map fun s => { s with targets := s.targets.map (s.passOver vanishing states.size) }

/-- The numbers of the states kept, in order: the two first ones, then all to which some state
leads, those with more entries first. -/
def keptStates (lexemeCount : Nat) (states : Array State) : List Nat :=
  let reached := states.foldl (fun acc s => (s.openSteps lexemeCount).foldl (fun acc e =>
    acc.setIfInBounds (s.targets.getD e.2 0) true) acc) (Array.replicate states.size false)
  let counts := states.map (·.entryCount lexemeCount)
  let rest := (List.range states.size).filter fun n =>
    n ≠ errorState && n ≠ startState && reached.getD n false
  errorState :: startState :: rest.mergeSort fun a b => counts.getD b 0 ≤ counts.getD a 0

def renumbered (kept : List Nat) (states : Array State) : Array State :=
  let numbers := kept.zipIdx.foldl (fun acc e => acc.setIfInBounds e.1 e.2)
    (Array.replicate states.size errorState)
  (kept.map fun n =>
    let s := states.getD n default
    { s with targets := s.targets.map (numbers.getD · errorState) }).toArray

/-! ### Readers -/

/-- The lexemes that a state's reader looks for: a keyword is read as a word. -/
def soughtBy (g : Productions) (d : Distinctions) (s : State) : Bits :=
  let plain := s.expected.inter (Bits.ofList (0 :: g.plainLexemes))
  if plain.meets d.keywords then (plain.without d.keywords).insert g.word else plain

/-- Gives a state the first reader that it can share, or a new one. -/
def assignReader (d : Distinctions) (sought : Bits) : List Bits → Nat × List Bits
  | [] => (0, [sought])
  | known :: rest =>
    let end_ := Bits.single 0
    if d.sharesReader (known.without end_) (sought.without end_) then
      (0, known.union sought :: rest)
    else
      let (n, rest) := assignReader d sought rest
      (n + 1, known :: rest)

/-- The states with their readers, and what each reader looks for. -/
def withReaders (g : Productions) (d : Distinctions) (states : Array State) :
    Array State × List Bits :=
  states.foldl (fun (acc, readers) s =>
    let (n, readers) := assignReader d (soughtBy g d s) readers
    (acc.push { s with reader := n }, readers)) (#[], [])

def ofProductions (g : Productions) : Automaton :=
  let items := Items.ofProductions g
  let machine := Machine.ofProductions g
  let follow := g.followSets items.firsts g.lastSets
  let overlaps := Overlaps.ofMachine machine g.plainLexemes (follow.getD · 0)
  let states := States.ofItems items
  let d := Distinctions.ofSets g machine overlaps states.expectedSets
  let layout := Bits.ofList ((List.range g.lexemes.size).filter g.isLayout)
  let extras := Bits.ofList g.extras
  let damaged := ((d.distinct.union layout).union extras).insert 0
  let blended := (Merging.ofStates g d states).grouping.blendAll states damaged
  let flat := withoutVanishing g.fleeting blended
  let kept := renumbered (keptStates g.lexemes.size flat) flat
  let (final, sought) := withReaders g d kept
  { vocabulary := ⟨g.appearances, states.shapes, g.lexemes.size, g.word⟩
    states := final
    readers := (sought.map fun set =>
      machine.reader (set.toList.filter (· ≠ 0)) (set.has 0)).toArray
    machine
    extras
    keywords := d.keywords }

/-! ### Use -/

def state (a : Automaton) (n : Nat) : State := a.states.getD n default

def isLexeme (a : Automaton) (symbol : Nat) : Bool := symbol < a.vocabulary.lexemeCount

def expects (a : Automaton) (state lexeme : Nat) : Bool := (a.state state).expected.has lexeme

/-- What is done on a lexeme: endings, then taking it. -/
def actionsOn (a : Automaton) (state lexeme : Nat) : List Action :=
  let s := a.state state
  match s.choice? lexeme with
  | some c =>
    let taking := match c.taking with
      | .refused => []
      | .idle => [.shiftRepeat]
      | .taken => ((s.target? lexeme).map Action.shift).toList
    c.endings.map Ending.action ++ taking
  | none =>
    if !s.expected.has lexeme then []
    else if a.extras.has lexeme then [.shiftExtra]
    else if state = errorState then [.recover]
    else []

/-- The state after a symbol for a parser that has just put the symbol in place. -/
def next (a : Automaton) (state symbol : Nat) : Option Nat :=
  if a.isLexeme symbol then
    match (a.actionsOn state symbol).getLast? with
    | some (.shift target) => some target
    | some .shiftExtra => some state
    | _ => none
  else (a.state state).target? symbol

/-- Whether two states find the same lexeme wherever they look for one; `watched` are the lexemes
that layout looks out for. -/
def readsAlike (a : Automaton) (watched : Bits) (n k : Nat) : Bool :=
  let s := a.state n
  let t := a.state k
  s.reader = t.reader && s.expected.inter watched = t.expected.inter watched

end Automaton
end StorefrontSurvey.Script
