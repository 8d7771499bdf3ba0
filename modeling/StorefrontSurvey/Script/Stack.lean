import StorefrontSurvey.Script.Part
/-!
The stack of a parser that follows several readings of a text at once. Nodes are kept in one array
and point to the nodes below them, so readings share what they have in common; where two readings
come to the same state at the same place their nodes are joined and one reading goes on.
-/
namespace StorefrontSurvey.Script

/-- A step down from a node: the node below and the part between, none where text was given up. -/
structure Link where
  node : Nat
  part? : Option Part
  deriving Inhabited

structure StackNode where
  state : Nat
  position : Nat
  links : Array Link
  cost : Nat
  /-- Shown parts below the node. -/
  count : Nat
  weight : Int
  deriving Inhabited

/-- A state met further down, with the number of parts above it. -/
structure Ancestor where
  position : Nat
  depth : Nat
  state : Nat
  deriving Inhabited

inductive Status where
  | active
  /-- Waiting to see whether another reading gets past a lexeme that does not fit here. -/
  | paused (lookahead : Part)
  | halted
  deriving Inhabited

structure Head where
  node : Nat
  status : Status
  countAtError : Nat
  /-- States to fall back to, recorded when the last error was met. -/
  ancestors? : Option (List Ancestor)
  deriving Inhabited

structure Stack where
  nodes : Array StackNode
  heads : Array Head
  deriving Inhabited

namespace Stack

def mostLinks : Nat := 8

def mostPaths : Nat := 64

def deepestAncestor : Nat := 16

def empty (start : Nat) : Stack :=
  { nodes := #[{ state := start, position := 0, links := #[], cost := 0, count := 0, weight := 0 }]
    heads := #[{ node := 0, status := .active, countAtError := 0, ancestors? := none }] }

def node (s : Stack) (n : Nat) : StackNode := s.nodes.getD n default

def head (s : Stack) (v : Nat) : Head := s.heads.getD v default

def top (s : Stack) (v : Nat) : StackNode := s.node (s.head v).node

def versions (s : Stack) : Nat := s.heads.size

def state (s : Stack) (v : Nat) : Nat := (s.top v).state

def position (s : Stack) (v : Nat) : Nat := (s.top v).position

def isActive (s : Stack) (v : Nat) : Bool :=
  match (s.head v).status with
  | .active => true
  | _ => false

def isHalted (s : Stack) (v : Nat) : Bool :=
  match (s.head v).status with
  | .halted => true
  | _ => false

def isPaused (s : Stack) (v : Nat) : Bool :=
  match (s.head v).status with
  | .paused _ => true
  | _ => false

def modifyHead (s : Stack) (v : Nat) (f : Head → Head) : Stack :=
  { s with heads := s.heads.modify v f }

def halt (s : Stack) (v : Nat) : Stack := s.modifyHead v fun h => { h with status := .halted }

def pause (s : Stack) (v : Nat) (lookahead : Part) : Stack :=
  let count := (s.top v).count
  s.modifyHead v fun h => { h with status := .paused lookahead, countAtError := count }

def remove (s : Stack) (v : Nat) : Stack := { s with heads := s.heads.eraseIdxIfInBounds v }

/-- Puts one reading in the place of another. The recorded ancestors of the other are kept unless
the reading has its own. -/
def renumber (s : Stack) (source target : Nat) : Stack :=
  if source = target then s
  else
    let h := s.head source
    let kept := match h.ancestors? with
      | some l => some l
      | none => (s.head target).ancestors?
    (s.modifyHead target fun _ => { h with ancestors? := kept }).remove source

def swap (s : Stack) (v w : Nat) : Stack :=
  { s with heads := s.heads.swapIfInBounds v w }

def copy (s : Stack) (v : Nat) : Nat × Stack :=
  (s.versions, { s with heads := s.heads.push { s.head v with ancestors? := none } })

/-- Puts a part on top of a reading; without a part the reading gives up the text before it. -/
def push (g : Vocabulary) (s : Stack) (v : Nat) (part? : Option Part) (state : Nat) : Stack :=
  let below := (s.head v).node
  let b := s.node below
  let n : StackNode := match part? with
    | some p =>
      { state, position := p.info.stop, links := #[⟨below, some p⟩], cost := b.cost + p.info.cost
        count := b.count + p.count g, weight := b.weight + p.info.weight }
    | none =>
      { state, position := b.position, links := #[⟨below, none⟩], cost := b.cost, count := b.count
        weight := b.weight }
  let id := s.nodes.size
  let s := { s with nodes := s.nodes.push n }
  s.modifyHead v fun h =>
    { h with node := id, countAtError := if part?.isNone then n.count else h.countAtError }

/-- The cost of a reading; a reading that has just met an error is charged for it in advance. -/
def cost (s : Stack) (v : Nat) : Nat :=
  let t := s.top v
  let gaveUp := t.state == 0 && (t.links[0]?.map (·.part?.isNone)).getD true
  t.cost + (if s.isPaused v || gaveUp then Part.costOfRecovery else 0)

/-- Parts put in place since the last error. The count at that error is lowered if readings have
been joined below it. -/
def countSinceError (s : Stack) (v : Nat) : Nat × Stack :=
  let count := (s.top v).count
  let h := s.head v
  if count < h.countAtError then (0, s.modifyHead v fun h => { h with countAtError := count })
  else (count - h.countAtError, s)

/-- Whether anything has been read since the last error. -/
def hasAdvanced (s : Stack) (v : Nat) : Bool :=
  if (s.top v).cost = 0 then true else go s.nodes.size (s.head v).node
where
  go : Nat → Nat → Bool
    | 0, _ => false
    | fuel + 1, n =>
      let t := s.node n
      match t.links[0]? with
      | none => false
      | some l => match l.part? with
        | none => false
        | some p =>
          if p.info.stop > p.info.outerStart then true
          else if t.count > (s.head v).countAtError && p.info.cost = 0 then go fuel l.node
          else false

/-! ### Joining readings -/

/-- Adds a way down to a node. Equal ways are kept once, and where only what lies below differs it
is joined there. -/
def addLink (g : Vocabulary) : Nat → Stack → Nat → Link → Stack
  | 0, s, _, _ => s
  | fuel + 1, s, target, link =>
    if link.node = target then s
    else
      let t := s.node target
      let same := fun (l : Link) => match l.part?, link.part? with
        | some a, some b => Part.isEquivalent a b
        | none, none => true
        | _, _ => false
      let mergeable := fun (l : Link) =>
        let a := s.node l.node
        let b := s.node link.node
        a.state == b.state && a.position == b.position && a.cost == b.cost
      let weightOf := fun (l : Link) => ((l.part?).map (·.info.weight)).getD 0
      match t.links.findIdx? fun l => same l && (l.node == link.node || mergeable l) with
      | some i =>
        let known := t.links.getD i default
        if known.node = link.node then
          if weightOf link > weightOf known then
            { s with nodes := s.nodes.modify target fun t =>
                { t with
                  links := t.links.setIfInBounds i link
                  weight := (s.node link.node).weight + weightOf link } }
          else s
        else
          let s := (s.node link.node).links.foldl
            (fun s l => addLink g fuel s known.node l) s
          let w := (s.node link.node).weight + weightOf link
          { s with nodes := s.nodes.modify target fun t =>
              { t with weight := if w > t.weight then w else t.weight } }
      | none =>
        if t.links.size ≥ mostLinks then s
        else
          let b := s.node link.node
          let count := b.count + ((link.part?).map (Part.count g)).getD 0
          let w := b.weight + weightOf link
          { s with nodes := s.nodes.modify target fun t =>
              { t with
                links := t.links.push link
                count := if count > t.count then count else t.count
                weight := if w > t.weight then w else t.weight } }

def canMerge (s : Stack) (v w : Nat) : Bool :=
  let a := s.top v
  let b := s.top w
  s.isActive v && s.isActive w && a.state == b.state && a.position == b.position &&
    a.cost == b.cost

/-- Joins the second reading to the first one if they are at the same point. -/
def merge? (g : Vocabulary) (s : Stack) (v w : Nat) : Option Stack :=
  if s.canMerge v w then
    let target := (s.head v).node
    let s := (s.top w).links.foldl (fun s l => addLink g s.nodes.size s target l) s
    let s := if s.state v = 0 then
        let count := (s.top v).count
        s.modifyHead v fun h => { h with countAtError := count }
      else s
    some (s.remove w)
  else none

/-! ### Taking parts off -/

/-- A way down from a reading: the node reached and the parts passed, the lowest first. -/
structure Descent where
  node : Nat
  parts : List Part
  depth : Nat
  deriving Inhabited

/-- What was taken off a reading, and the reading left after it. -/
structure Slice where
  parts : List Part
  version : Nat
  deriving Inhabited

def Descent.follow (d : Descent) (l : Link) : Descent :=
  match l.part? with
  | some p =>
    { node := l.node, parts := p :: d.parts, depth := if p.isExtra then d.depth else d.depth + 1 }
  | none => { node := l.node, parts := d.parts, depth := d.depth + 1 }

/-- Adds what was taken off, with a new reading unless one of the slices left the same node. -/
def addSlice (s : Stack) (slices : Array Slice) (from_ : Nat) (d : Descent) :
    Array Slice × Stack :=
  let sameNode := fun (sl : Slice) => (s.head sl.version).node == d.node
  match (List.range slices.size).reverse.find? fun i => sameNode (slices.getD i default) with
  | some i =>
    let v := (slices.getD i default).version
    (slices.insertIdxIfInBounds (i + 1) ⟨d.parts, v⟩, s)
  | none =>
    let v := s.versions
    let h : Head := { node := d.node, status := .active
                      countAtError := (s.head from_).countAtError, ancestors? := none }
    (slices.push ⟨d.parts, v⟩, { s with heads := s.heads.push h })

/-- One round over the ways down that are still open: `stop?` says whether a way ends here, and
whether it counts. The first link of a node continues its way, the others open new ones. -/
def descendRound (stop? : StackNode → Descent → Option Bool) (from_ : Nat)
    (open_ : List Descent) (slices : Array Slice) (s : Stack) :
    List Descent × Array Slice × Stack :=
  let step := fun (acc : (List Descent × List Descent) × Array Slice × Stack) (d : Descent) =>
    let ((kept, new), slices, s) := acc
    let n := s.node d.node
    let verdict := stop? n d
    let (slices, s) := if verdict == some true then addSlice s slices from_ d else (slices, s)
    if verdict.isSome || n.links.isEmpty then ((kept, new), slices, s)
    else
      let others := (n.links.toList.drop 1).take (mostPaths - kept.length - new.length - 1)
      let kept := kept ++ ((n.links[0]?).map d.follow).toList
      ((kept, new ++ others.map d.follow), slices, s)
  let ((kept, new), slices, s) := open_.foldl step (([], []), slices, s)
  (kept ++ new, slices, s)

def descend (stop? : StackNode → Descent → Option Bool) (from_ : Nat) :
    Nat → List Descent → Array Slice → Stack → Array Slice × Stack
  | 0, _, slices, s => (slices, s)
  | _, [], slices, s => (slices, s)
  | fuel + 1, open_, slices, s =>
    let (open_, slices, s) := descendRound stop? from_ open_ slices s
    descend stop? from_ fuel open_ slices s

/-- Takes a number of parts off a reading, not counting parts that may stand anywhere. -/
def popCount (s : Stack) (v count : Nat) : Array Slice × Stack :=
  descend (fun _ d => if d.depth == count then some true else none) v (s.nodes.size + 1)
    [⟨(s.head v).node, [], 0⟩] #[] s

def popAll (s : Stack) (v : Nat) : Array Slice × Stack :=
  descend (fun n _ => if n.links.isEmpty then some true else none) v (s.nodes.size + 1)
    [⟨(s.head v).node, [], 0⟩] #[] s

/-- Takes a part of the error kind off the top of a reading, if there is one. -/
def popError (s : Stack) (v : Nat) : Option Part × Stack :=
  let isErrorLink := fun (l : Link) => ((l.part?).map Part.isError).getD false
  match (s.top v).links.find? isErrorLink with
  | none => (none, s)
  | some l => (l.part?, s.modifyHead v fun h => { h with node := l.node, status := .active })

/-- One round over ways down for the record of ancestors. -/
def ancestorsRound (s : Stack) (open_ : List Descent) (found : List Ancestor) :
    List Descent × List Ancestor :=
  let step := fun (acc : (List Descent × List Descent) × List Ancestor) (d : Descent) =>
    let ((kept, new), found) := acc
    let n := s.node d.node
    if d.depth > deepestAncestor then acc
    else
      let known := (found.reverse.takeWhile fun a => a.depth ≥ d.depth).any fun a =>
        a.depth == d.depth && a.state == n.state
      let found := if known then found else found ++ [⟨n.position, d.depth, n.state⟩]
      if n.links.isEmpty then ((kept, new), found)
      else
        let others := (n.links.toList.drop 1).take (mostPaths - kept.length - new.length - 1)
        let bare := fun (l : Link) => { d.follow l with parts := [] }
        let kept := kept ++ ((n.links[0]?).map bare).toList
        ((kept, new ++ others.map bare), found)
  let ((kept, new), found) := open_.foldl step (([], []), found)
  (kept ++ new, found)

def ancestors (s : Stack) : Nat → List Descent → List Ancestor → List Ancestor
  | 0, _, found => found
  | _, [], found => found
  | fuel + 1, open_, found =>
    let (open_, found) := ancestorsRound s open_ found
    ancestors s fuel open_ found

def recordAncestors (s : Stack) (v : Nat) : Stack :=
  let found := ancestors s (s.nodes.size + 1) [⟨(s.head v).node, [], 0⟩] []
  s.modifyHead v fun h => { h with ancestors? := some found }

end Stack
end StorefrontSurvey.Script
