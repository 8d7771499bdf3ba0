import StorefrontSurvey.Script.Pattern
import StorefrontSurvey.Script.Production
import StorefrontSurvey.Script.Source
/-!
The machine that reads lexemes. Its nodes take a character, fork, or end a lexeme; a reader is a set
of nodes, and reading moves all of them over the text at once.
-/
namespace StorefrontSurvey.Script

inductive MachineNode where
  /-- Take a character of a set; a separator in front of a lexeme is not part of it. -/
  | take (set : CharSet) (separator : Bool) (next : Nat)
  | fork (first second : Nat)
  | done
  deriving Inhabited

structure LexemeTraits where
  start : Nat
  precedence : Int
  specificity : Nat
  /-- Where the lexeme comes among all lexemes: the last thing that settles a tie. -/
  ordinal : Nat
  deriving Inhabited

structure Machine where
  nodes : Array MachineNode
  /-- The lexeme that each node belongs to. -/
  owners : Array Nat
  lexemes : Array LexemeTraits
  deriving Inhabited

namespace Machine

def empty : Machine := ⟨#[], #[], #[]⟩

def node (m : Machine) (n : Nat) : MachineNode := m.nodes.getD n .done

def owner (m : Machine) (n : Nat) : Nat := m.owners.getD n 0

def traits (m : Machine) (lexeme : Nat) : LexemeTraits := m.lexemes.getD lexeme default

/-- Adds a node that belongs to the lexeme under construction. -/
def addNode (m : Machine) (n : MachineNode) : Nat × Machine :=
  (m.nodes.size, { m with nodes := m.nodes.push n, owners := m.owners.push m.lexemes.size })

/-- Adds nodes for a pattern in front of a node; the first of them. -/
def addPattern (separator : Bool) : Pattern → Nat → Machine → Nat × Machine
  | .nothing, next, m => (next, m)
  | .one set, next, m => m.addNode (.take set separator next)
  | .seq a b, next, m =>
    let (n, m) := addPattern separator b next m
    addPattern separator a n m
  | .alt a b, next, m =>
    let (x, m) := addPattern separator a next m
    let (y, m) := addPattern separator b next m
    m.addNode (.fork x y)
  | .star a, next, m =>
    let (again, m) := m.addNode .done
    let (first, m) := addPattern separator a again m
    (again, { m with nodes := m.nodes.setIfInBounds again (.fork first next) })

/-- Adds a lexeme. One that need not follow the lexeme before it may have separators in front. -/
def addLexeme (m : Machine) (l : Lexeme) (ordinal : Nat) : Machine :=
  let (last, m) := m.addNode .done
  let (start, m) := addPattern false l.pattern last m
  let (start, m) :=
    if l.isAttached then (start, m) else addPattern true (.star (.one .separators)) start m
  { m with lexemes := m.lexemes.push ⟨start, l.precedence, l.specificity, ordinal⟩ }

/-- The machine of a grammar's lexemes, numbered by their symbols. -/
def ofProductions (g : Productions) : Machine :=
  (List.range g.lexemes.size).foldl (fun m symbol =>
    m.addLexeme ((g.lexeme? symbol).getD (.text "")) (g.ordinal symbol)) empty

/-! ### Readers -/

/-- Adds a node and the nodes reached from it without taking a character. -/
def addReached (m : Machine) : Nat → List Nat → List Nat → List Nat → List Nat
  | 0, _, _, found => found
  | _, [], _, found => found
  | fuel + 1, n :: rest, seen, found =>
    if seen.contains n then addReached m fuel rest seen found
    else match m.node n with
      | .fork a b => addReached m fuel (a :: b :: rest) (n :: seen) found
      | _ => addReached m fuel rest (n :: seen) (n :: found)

/-- The nodes that a set of nodes stands for: those that take a character or end a lexeme. -/
def spread (m : Machine) (ns : List Nat) : List Nat :=
  (addReached m (2 * m.nodes.size + 2) ns [] []).mergeSort

def isSeparatorNode (m : Machine) (n : Nat) : Bool :=
  match m.node n with
  | .take _ separator _ => separator
  | _ => false

/-- Whether the first of two lexemes that end at one place is taken. -/
def prefers (m : Machine) (a b : Nat) : Bool :=
  let p := m.traits a
  let q := m.traits b
  if p.precedence ≠ q.precedence then p.precedence > q.precedence
  else if p.specificity ≠ q.specificity then p.specificity > q.specificity
  else p.ordinal < q.ordinal

def ended? (m : Machine) (reader : List Nat) : Option Nat :=
  reader.foldl (fun best n => match m.node n, best with
    | .done, none => some (m.owner n)
    | .done, some b => if m.prefers b (m.owner n) then best else some (m.owner n)
    | _, _ => best) none

structure Move where
  targets : List Nat
  precedence : Int
  separator : Bool

/-- The step that a node makes by itself, with the characters it takes. -/
def ownMove? (m : Machine) (n : Nat) : Option (CharSet × Move) :=
  match m.node n with
  | .take set separator next =>
    some (set, ⟨[next], if separator then 0 else (m.traits (m.owner n)).precedence, separator⟩)
  | _ => none

/-- Two steps over one character made together. -/
def Move.join (a b : Move) : Move :=
  ⟨a.targets ++ b.targets.filter (!a.targets.contains ·), max a.precedence b.precedence,
    a.separator && b.separator⟩

/-- The step of a reader over a kind of characters. -/
def move? (m : Machine) (reader : List Nat) (kind : Nat) : Option Move :=
  reader.foldl (fun acc n => match m.ownMove? n with
    | some (set, step) =>
      if set.has kind then some (match acc with
        | none => step
        | some a => a.join step)
      else acc
    | none => acc) none

/-- All steps of a reader, each with the characters over which it is made. -/
def moves (m : Machine) (reader : List Nat) : List (CharSet × Move) :=
  reader.foldl (fun acc n => match m.ownMove? n with
    | some (set, step) =>
      let split := acc.flatMap fun (chars, known) =>
        [(chars.inter set, known.join step), (chars.without set, known)]
      let alone := acc.foldl (fun rest e => rest.without e.1) set
      ((alone, step) :: split).filter fun e => e.1 ≠ 0
    | none => acc) []

/-- Whether a reader that has ended a lexeme still takes a step. -/
def goesOn (m : Machine) (reader : List Nat) (ended : Nat) (step : Move) : Bool :=
  let precedence := (m.traits ended).precedence
  if step.precedence < precedence then false
  else if step.precedence = precedence then
    !step.separator &&
      (!reader.any m.isSeparatorNode || step.targets.any fun n => m.owner n == ended)
  else true

/-- The result of reading at a position: a lexeme, the end of the text, or how far reading got after
the separators. -/
inductive Match where
  | found (lexeme start stop : Nat)
  | atEnd (start : Nat)
  | stuck (start reached : Nat)
  deriving Inhabited

/-- Reads on from a position with the best match so far. `endFits` says whether the end of the text
is a match at this place. -/
def readFrom (m : Machine) (s : Source) :
    Nat → List Nat → Bool → Nat → Nat → Option Match → Match
  | 0, _, _, start, p, best => best.getD (.stuck start p)
  | fuel + 1, reader, endFits, start, p, best =>
    let ended := m.ended? reader
    let best := match ended with
      | some l => some (.found l start p)
      | none => best
    match s.peek? p with
    | none => if endFits then .atEnd p else best.getD (.stuck start p)
    | some c =>
      match m.move? reader (CharSet.kindOf c) with
      | none => best.getD (.stuck start p)
      | some step =>
        if ended.all (m.goesOn reader · step) then
          readFrom m s fuel (m.spread step.targets) (endFits && step.separator)
            (if step.separator then p + 1 else start) (p + 1) best
        else best.getD (.stuck start p)

end Machine

/-- Where reading starts when some lexemes are expected. -/
structure Reader where
  nodes : List Nat
  /-- The end of the text is expected too. -/
  endFits : Bool
  deriving Inhabited

def Machine.reader (m : Machine) (lexemes : List Nat) (endFits : Bool) : Reader :=
  ⟨m.spread (lexemes.map fun l => (m.traits l).start), endFits⟩

def Machine.read (m : Machine) (s : Source) (r : Reader) (p : Nat) : Machine.Match :=
  m.readFrom s (s.size + 2) r.nodes r.endFits p p none

end StorefrontSurvey.Script
