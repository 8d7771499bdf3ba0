import StorefrontSurvey.Script.Lexicon
import StorefrontSurvey.Script.Stack
/-!
Parsing a script. All readings that the grammar leaves open are followed side by side. When no
reading gets past a lexeme, the parser tries to make up one missing lexeme, falls back to an earlier
state that takes the lexeme, or skips the lexeme, and keeps the readings that cost least. Every text
has a tree.
-/
namespace StorefrontSurvey.Script

/-- A lexeme with the position and the state for which it was read. -/
structure LastLexeme where
  position : Nat
  state : Nat
  part : Part

structure Run where
  automaton : Automaton
  lexicon : Lexicon
  source : Source
  stack : Stack
  finished? : Option Part
  accepted : Nat
  /-- The lexeme read last, with its position and the state in which it was read. -/
  last? : Option LastLexeme

/-- Steps of a parse. -/
abbrev Parsing := StateM Run

namespace Parsing

def mostVersions : Nat := 6

def versionOverflow : Nat := 4

/-- Cost differences above this, scaled by progress, settle which of two readings is dropped. -/
def mostCostDifference : Nat := 18 * Part.costOfSkippedPart

def grammar : Parsing Vocabulary := do return (← get).automaton.vocabulary

def stack : Parsing Stack := do return (← get).stack

def setStack (s : Stack) : Parsing Unit := modify fun r => { r with stack := s }

def modifyStack (f : Stack → Stack) : Parsing Unit := modify fun r => { r with stack := f r.stack }

def actionsOn (state lexeme : Nat) : Parsing (List Action) :=
  return (← get).automaton.actionsOn state lexeme

/-- The actions on a part: text that fits nowhere has none. -/
def actionsFor (state : Nat) (part : Part) : Parsing (List Action) :=
  match part.info.kind with
  | .symbol s => actionsOn state s
  | _ => return []

/-- The state after a symbol; the error state if the symbol does not fit. -/
def nextState (state symbol : Nat) : Parsing Nat := do
  return ((← get).automaton.next state symbol).getD Automaton.errorState

def lexemeCount : Parsing Nat := do return (← grammar).lexemeCount

def push (v : Nat) (part? : Option Part) (state : Nat) : Parsing Unit := do
  let g ← grammar
  modifyStack fun s => s.push g v part? state

def merge (v w : Nat) : Parsing Bool := do
  let g ← grammar
  match (← stack).merge? g v w with
  | some s => setStack s; return true
  | none => return false

/-- Joins a reading to the first of some others that is at the same point. -/
def mergeInto : List Nat → Nat → Parsing Bool
  | [], _ => return false
  | j :: js, v => do if ← merge j v then return true else mergeInto js v

def buildPart (kind : PartKind) (shape? : Option Nat) (children : List Part) (at_ : Nat) :
    Parsing Part := do
  return Part.ofChildren (← grammar) (← get).source kind shape? children at_

/-! ### Reductions -/

/-- Splits off the parts at the end that may stand anywhere. -/
def splitExtras (parts : List Part) : List Part × List Part :=
  let extras := (parts.reverse.takeWhile Part.isExtra).reverse
  (parts.take (parts.length - extras.length), extras)

/-- The children for a part that several ways down offer: a later way is taken when its part is
preferred. -/
def chooseChildren (kind : PartKind) (shape? : Option Nat) (at_ : Nat) :
    List (List Part) → Part × List Part → Parsing (Part × List Part)
  | [], best => return best
  | parts :: rest, best => do
    let (children, extras) := splitExtras parts
    let other ← buildPart kind none children at_
    if Part.prefersSecond best.1 other then
      let part ← buildPart kind shape? children at_
      chooseChildren kind shape? at_ rest (part, extras)
    else chooseChildren kind shape? at_ rest best

def groupSlices (slices : List Stack.Slice) : List (Nat × List (List Part)) :=
  slices.foldr (fun sl acc => match acc with
    | (v, ps) :: rest =>
      if v = sl.version then (v, sl.parts :: ps) :: rest else (sl.version, [sl.parts]) :: acc
    | [] => [(sl.version, [sl.parts])]) []

/-- Builds a production's part on the readings left after its places were taken off. `removed`
counts readings dropped on the way, which moves the later ones forward. -/
def reduceGroups (v result size : Nat) (weight : Int) (shape halted : Nat) :
    List (Nat × List (List Part)) → Nat → Parsing Unit
  | [], _ => return
  | (version, ways) :: rest, removed => do
    let w := version - removed
    if w > mostVersions + versionOverflow + halted then
      modifyStack fun s => s.remove w
      reduceGroups v result size weight shape halted rest (removed + 1)
    else
      let kind := PartKind.symbol result
      let position := (← stack).position w
      let (children, extras) := splitExtras (ways.headD [])
      let first ← buildPart kind (some shape) children position
      let (part, extras) ← chooseChildren kind (some shape) position (ways.drop 1)
        (first, extras)
      let next ← nextState ((← stack).state w) result
      push w (some (part.addWeight weight)) next
      for e in extras do push w (some e) next
      let merged ← mergeInto ((List.range w).filter (· ≠ v)) w
      reduceGroups v result size weight shape halted rest (if merged then removed + 1 else removed)

/-- Builds a production's part on top of a reading. The first of the readings that come of it. -/
def reduce (v result size : Nat) (weight : Int) (shape : Nat) : Parsing (Option Nat) := do
  let initial := (← stack).versions
  let (slices, s) := (← stack).popCount v size
  setStack s
  let halted := ((List.range s.versions).filter s.isHalted).length
  reduceGroups v result size weight shape halted (groupSlices slices.toList) 0
  return if (← stack).versions > initial then some initial else none

/-! ### The end of the text -/

/-- The whole tree from all parts of a reading: the last part that may not stand anywhere gives way
to its children. -/
def wholePart (parts : List Part) : Parsing (Option Part) := do
  let after := parts.reverse.takeWhile Part.isExtra
  match parts.take (parts.length - after.length) |>.reverse with
  | [] => return none
  | p :: before =>
    let children := before.reverse ++ p.children ++ after.reverse
    return some (← buildPart p.info.kind p.info.shape? children p.info.start)

def finish (part : Part) : Parsing Unit := modify fun r =>
  let kept := match r.finished? with
    | none => part
    | some f => if Part.prefersSecond f part then part else f
  { r with finished? := some kept, accepted := r.accepted + 1 }

def accept (v : Nat) (lookahead : Part) : Parsing Unit := do
  push v (some lookahead) Automaton.startState
  let (slices, s) := (← stack).popAll v
  setStack s
  for sl in slices.toList do
    match ← wholePart sl.parts with
    | some p => finish p
    | none => pure ()
  match slices[0]? with
  | some sl => modifyStack fun s => s.remove sl.version
  | none => pure ()
  modifyStack fun s => s.halt v

/-! ### Comparing readings -/

structure Standing where
  cost : Nat
  count : Nat
  weight : Int
  inError : Bool

inductive Preference where
  | takeLeft
  | preferLeft
  | none
  | preferRight
  | takeRight
  deriving DecidableEq

def countSinceError (v : Nat) : Parsing Nat := do
  let (n, s) := (← stack).countSinceError v
  setStack s
  return n

def standing (v : Nat) : Parsing Standing := do
  let count ← countSinceError v
  let s ← stack
  let paused := s.isPaused v
  return { cost := s.cost v + (if paused then Part.costOfSkippedPart else 0), count
           weight := (s.top v).weight, inError := paused || s.state v == Automaton.errorState }

def compareStandings (a b : Standing) : Preference :=
  if !a.inError && b.inError then if a.cost < b.cost then .takeLeft else .preferLeft
  else if a.inError && !b.inError then if b.cost < a.cost then .takeRight else .preferRight
  else if a.cost < b.cost then
    if (b.cost - a.cost) * (1 + a.count) > mostCostDifference then .takeLeft else .preferLeft
  else if b.cost < a.cost then
    if (a.cost - b.cost) * (1 + b.count) > mostCostDifference then .takeRight else .preferRight
  else if a.weight > b.weight then .preferLeft
  else if b.weight > a.weight then .preferRight
  else .none

def anyBetter (v : Nat) (mine : Standing) (position : Nat) : List Nat → Parsing Bool
  | [] => return false
  | i :: rest => do
    let s ← stack
    if i = v || !s.isActive i || s.position i < position then anyBetter v mine position rest
    else
      match compareStandings mine (← standing i) with
      | .takeRight => return true
      | .preferRight =>
        if (← stack).canMerge i v then return true else anyBetter v mine position rest
      | _ => anyBetter v mine position rest

/-- Whether another reading makes one of the given cost pointless. -/
def betterExists (v : Nat) (inError : Bool) (cost : Nat) : Parsing Bool := do
  let done : Bool := match (← get).finished? with
    | some f => f.info.cost ≤ cost
    | none => false
  if done then return true
  else
    let count ← countSinceError v
    let s ← stack
    let mine : Standing := { cost, count, weight := (s.top v).weight, inError }
    anyBetter v mine (s.position v) (List.range s.versions)

/-! ### Errors -/

/-- The reductions possible in a state, each result and length once, and whether a lexeme can be
taken there. Without a lexeme all lexemes count. -/
def potential (state : Nat) (lexeme? : Option Nat) :
    Parsing (List (Nat × Nat × Int × Nat) × Bool) := do
  let g ← grammar
  let lexemes := match lexeme? with
    | some l => [l]
    | none => (List.range g.lexemeCount).drop 1
  let mut found : List (Nat × Nat × Int × Nat) := []
  let mut shifts := false
  for l in lexemes do
    for action in ← actionsOn state l do
      match action with
      | .shift _ | .recover => shifts := true
      | .reduce result size weight shape =>
        if size > 0 && !(found.any fun e => e.1 == result && e.2.1 == size) then
          found := found ++ [(result, size, weight, shape)]
      | _ => pure ()
  return (found, shifts)

def reduceAll (v : Nat) : List (Nat × Nat × Int × Nat) → Option Nat → Parsing (Option Nat)
  | [], last => return last
  | (a, b, c, d) :: rest, _ => do
    let r ← reduce v a b c d
    reduceAll v rest r

/-- Carries out every reduction that a reading and the readings that come of it allow, on a given
lexeme or on any. Whether one of them can then take a lexeme. -/
def reduceOnAny (start initial : Nat) (lexeme? : Option Nat) :
    Nat → Nat → Nat → Bool → Parsing Bool
  | 0, _, _, can => return can
  | fuel + 1, i, v, can => do
    let versions := (← stack).versions
    if v ≥ versions then return can
    else if ← mergeInto ((List.range v).drop initial) v then
      reduceOnAny start initial lexeme? fuel (i + 1) v can
    else
      let (reductions, shifts) ← potential ((← stack).state v) lexeme?
      let last ← reduceAll v reductions none
      let onward := if v = start then versions else v + 1
      if shifts then reduceOnAny start initial lexeme? fuel (i + 1) onward true
      else
        match last with
        | some r =>
          if i < mostVersions then
            modifyStack fun s => s.renumber r v
            reduceOnAny start initial lexeme? fuel (i + 1) v can
          else
            if lexeme?.isSome then modifyStack fun s => s.remove v
            reduceOnAny start initial lexeme? fuel (i + 1) onward can
        | none =>
          if lexeme?.isSome then modifyStack fun s => s.remove v
          reduceOnAny start initial lexeme? fuel (i + 1) onward can

def allReductions (v : Nat) (lexeme? : Option Nat) : Parsing Bool := do
  let initial := (← stack).versions
  reduceOnAny v initial lexeme? (1000 + (← get).source.size) 0 v false

/-- The symbol by which a lookahead is looked up; none where it fits nowhere or ends the text. -/
def lookaheadSymbol? (lookahead : Part) : Option Nat :=
  match lookahead.info.kind with
  | .symbol s => some s
  | _ => none

/-- Tries to go on as if one lexeme had been left out before the lookahead. -/
def insertMissing (v position : Nat) (lookahead : Part) : List Nat → Parsing Bool
  | [] => return false
  | symbol :: rest => do
    let state := (← stack).state v
    let next ← nextState state symbol
    if next = Automaton.errorState || next = state then
      insertMissing v position lookahead rest
    else
      match (← actionsFor next lookahead).head? with
      | some (.reduce ..) =>
        let (w, s) := (← stack).copy v
        setStack s
        push w (some (Part.ofMissing symbol position)) next
        let lexeme? := (lookaheadSymbol? lookahead).filter (· ≠ 0)
        if ← allReductions w lexeme? then return true
        else insertMissing v position lookahead rest
      | _ => insertMissing v position lookahead rest

/-- Drops the readings from a number on that are no longer active. -/
def dropInactive : Nat → Nat → Parsing Unit
  | 0, _ => return
  | fuel + 1, i => do
    let s ← stack
    if i ≥ s.versions then return
    else if s.isActive i then dropInactive fuel (i + 1)
    else
      setStack (s.remove i)
      dropInactive fuel i

/-- Falls back to a state further down: what lies above becomes a part of skipped text. -/
def recoverSlices (goal : Nat) : List Stack.Slice → Option Nat → Parsing (Option Nat)
  | [], last => return last
  | sl :: rest, last => do
    if last = some sl.version then recoverSlices goal rest last
    else if (← stack).state sl.version ≠ goal then
      modifyStack fun s => s.halt sl.version
      recoverSlices goal rest last
    else
      let (error?, s) := (← stack).popError sl.version
      setStack s
      let skipped := (error?.map Part.children).getD []
      let (parts, extras) := splitExtras (skipped ++ sl.parts)
      if !parts.isEmpty then
        let part ← buildPart .error none parts 0
        push sl.version (some (part.setExtra true)) goal
      for e in extras do push sl.version (some e) goal
      recoverSlices goal rest (some sl.version)

def recoverTo (v depth goal : Nat) : Parsing Bool := do
  let (slices, s) := (← stack).popCount v depth
  setStack s
  return (← recoverSlices goal slices.toList none).isSome

/-- Tries the recorded ancestors in turn for one in which the lookahead fits. -/
def fallBack (v previous position cost sinceError : Nat) (symbol : Nat) :
    List Ancestor → Parsing Bool
  | [] => return false
  | a :: rest => do
    let again := fallBack v previous position cost sinceError symbol rest
    if a.state = Automaton.errorState || a.position = position then again
    else
      let depth := if sinceError > 0 then a.depth + 1 else a.depth
      let s ← stack
      let redundant := (List.range previous).any fun j =>
        s.state j == a.state && s.position j == position
      if redundant then again
      else
        let source := (← get).source
        let newCost := cost + a.depth * Part.costOfSkippedPart +
          (source.byteAt position - source.byteAt a.position) * Part.costOfSkippedByte +
          (source.rowAt position - source.rowAt a.position) * Part.costOfSkippedRow
        if ← betterExists v false newCost then return false
        else if (← actionsOn a.state symbol).isEmpty then again
        else if ← recoverTo v depth a.state then return true
        else again

/-- Puts a lookahead on top of a reading as skipped text, together with text skipped before. -/
def skipLookahead (v : Nat) (lookahead : Part) (sinceError : Nat) : Parsing Unit := do
  let atStart ← actionsFor Automaton.startState lookahead
  let extra := atStart.getLast? == some .shiftExtra
  let lookahead := if extra then lookahead.setExtra true else lookahead
  let one ← buildPart .skipped none [lookahead] 0
  if sinceError > 0 then
    let (slices, s) := (← stack).popCount v 1
    setStack s
    match slices[0]? with
    | none => push v (some one) Automaton.errorState
    | some sl =>
      if slices.size > 1 then
        modifyStack fun s => { s with heads := s.heads.extract 0 (sl.version + 1) }
      modifyStack fun s => s.renumber sl.version v
      let both ← buildPart .skipped none (sl.parts ++ [one]) 0
      push v (some both) Automaton.errorState
  else push v (some one) Automaton.errorState

/-- Goes on from an error with the lookahead: falls back if that is worthwhile, and also skips the
lookahead unless that costs too much. At the end of the text everything read becomes one error. -/
def recover (v : Nat) (lookahead : Part) : Parsing Unit := do
  let s ← stack
  let previous := s.versions
  let position := s.position v
  let known := (s.head v).ancestors?
  let sinceError ← countSinceError v
  let cost := (← stack).cost v
  let recovered ← match known, lookaheadSymbol? lookahead with
    | some l, some symbol => fallBack v previous position cost sinceError symbol l
    | _, _ => pure false
  dropInactive ((← stack).versions + 1) previous
  if lookaheadSymbol? lookahead = some 0 then
    let whole ← buildPart .error none [] position
    push v (some whole) Automaton.startState
    accept v lookahead
  else if recovered && (← stack).versions > mostVersions then
    modifyStack fun s => s.halt v
  else
    let source := (← get).source
    let i := lookahead.info
    let newCost := cost + Part.costOfSkippedPart +
      (source.byteAt i.stop - source.byteAt i.outerStart) * Part.costOfSkippedByte +
      (source.rowAt i.stop - source.rowAt i.outerStart) * Part.costOfSkippedRow
    if ← betterExists v false newCost then modifyStack fun s => s.halt v
    else skipLookahead v lookahead sinceError

/-- Gives up the text before an error on every reading that reductions lead to, after trying on each
to make up a missing lexeme until that succeeds once. -/
def giveUpEach (v previous count position : Nat) (lookahead : Part) :
    Nat → Nat → Bool → Parsing Unit
  | 0, _, _ => return
  | fuel + 1, w, inserted => do
    if w ≥ count then return
    else
      let inserted ← if inserted then pure true
        else insertMissing w position lookahead ((List.range (← lexemeCount)).drop 1)
      push w none Automaton.errorState
      let next := if w = v then previous else w + 1
      giveUpEach v previous count position lookahead fuel next inserted

/-- Starts the recovery from a lexeme that no reading can take. -/
def handleError (v : Nat) (lookahead : Part) : Parsing Unit := do
  let previous := (← stack).versions
  let _ ← allReductions v none
  let count := (← stack).versions
  let position := (← stack).position v
  giveUpEach v previous count position lookahead (count + 1) v false
  for _ in List.range (count - previous) do
    let _ ← merge v previous
  modifyStack fun s => s.recordAncestors v
  recover v lookahead

/-! ### Reading on -/

/-- Carries out the actions on a lookahead. True if the reading has dealt with the lookahead;
otherwise the last reading that a reduction opened, and whether there was a reduction. -/
def perform (v state : Nat) (lookahead : Part) :
    List Action → Option Nat → Bool → Parsing (Bool × Option Nat × Bool)
  | [], last, reduced => return (false, last, reduced)
  | action :: rest, last, reduced => do
    match action with
    | .shiftRepeat => perform v state lookahead rest last reduced
    | .shift target =>
      push v (some (lookahead.setExtra false)) target
      return (true, last, reduced)
    | .shiftExtra =>
      push v (some (lookahead.setExtra true)) state
      return (true, last, reduced)
    | .reduce a b c d =>
      let r ← reduce v a b c d
      perform v state lookahead rest (r <|> last) true
    | .accept =>
      accept v lookahead
      return (true, last, reduced)
    | .recover =>
      recover v lookahead
      return (true, last, reduced)

/-- Deals with a lookahead that a reading can do nothing with: a reading that skips text goes on
skipping, any other is paused. -/
def stall (v state : Nat) (lookahead : Part) : Parsing Unit :=
  if state = Automaton.errorState then recover v lookahead
  else modifyStack fun s => s.pause v lookahead

/-- Takes a lookahead into a reading, after as many reductions as it calls for. A reading that can
do nothing with the lookahead is paused. -/
def take (v : Nat) : Nat → Nat → Part → List Action → Parsing Unit
  | 0, _, lookahead, _ => modifyStack fun s => s.pause v lookahead
  | fuel + 1, state, lookahead, actions => do
    let (done, last, reduced) ← perform v state lookahead actions none false
    if done then return
    else
      match last with
      | some r =>
        modifyStack fun s => s.renumber r v
        let state := (← stack).state v
        take v fuel state lookahead (← actionsFor state lookahead)
      | none =>
        if reduced then modifyStack fun s => s.halt v
        else
          let word := (← grammar).word
          if lookahead.info.keyword && lookahead.info.kind != .symbol word then
            let asWord ← actionsOn state word
            if asWord.isEmpty then stall v state lookahead
            else take v fuel state (lookahead.setKind (.symbol word)) asWord
          else stall v state lookahead

/-- Whether the lexeme read last is what would be read at a position in a state. -/
def holdsFor (r : Run) (position state : Nat) (l : LastLexeme) : Bool :=
  match l.part.info.kind with
  | .symbol symbol =>
    let a := r.automaton
    l.position = position && !(a.actionsOn state symbol).isEmpty &&
      a.readsAlike r.lexicon.watched state l.state &&
      (symbol ≠ r.lexicon.word || (!l.part.info.keyword && state = l.state))
  | _ => false

def lookaheadOf (v : Nat) : Parsing Part := do
  let s ← stack
  let state := s.state v
  let position := s.position v
  let r ← get
  match r.last?.filter (holdsFor r position state) with
  | some l => return l.part
  | none =>
    let advanced := s.hasAdvanced v
    let semicolonTarget := r.automaton.next state (r.lexicon.layoutSymbol .semicolon)
    let mayBeEmpty := fun symbol =>
      advanced && !(symbol == r.lexicon.layoutSymbol .semicolon && semicolonTarget == some state)
    let part := r.lexicon.lexemeAt r.automaton r.source state mayBeEmpty position
    set { r with last? := some ⟨position, state, part⟩ }
    return part

def advance (v : Nat) : Parsing Unit := do
  let lookahead ← lookaheadOf v
  let state := (← stack).state v
  take v ((← get).source.size * 10 + 1000) state lookahead (← actionsFor state lookahead)

/-- Moves one reading on until it is past the furthest position reached before. -/
def advanceVersion (v : Nat) : Nat → Nat → Parsing Nat
  | 0, furthest => return furthest
  | fuel + 1, furthest => do
    if (← stack).isActive v then
      advance v
      let position := (← stack).position v
      if position > furthest || (v > 0 && position = furthest) then return position
      else advanceVersion v fuel furthest
    else return furthest

def advanceAll : Nat → Nat → Nat → Parsing Nat
  | 0, _, furthest => return furthest
  | fuel + 1, v, furthest => do
    if v ≥ (← stack).versions then return furthest
    else
      let furthest ← advanceVersion v ((← get).source.size + 100) furthest
      advanceAll fuel (v + 1) furthest

/-- Compares a reading with those before it. Gives the place of the last reading compared, after the
readings dropped on the way. -/
def weigh (mine : Standing) : Nat → Nat → Nat → Parsing Nat
  | 0, i, _ => return i
  | fuel + 1, i, j => do
    if j ≥ i then return i
    else
      match compareStandings (← standing j) mine with
      | .takeLeft =>
        modifyStack fun s => s.remove i
        return i - 1
      | .preferLeft | .none =>
        if ← merge j i then return i - 1 else weigh mine fuel i (j + 1)
      | .preferRight =>
        if ← merge j i then return i - 1
        else
          modifyStack fun s => s.swap i j
          weigh mine fuel i (j + 1)
      | .takeRight =>
        modifyStack fun s => s.remove j
        weigh mine fuel (i - 1) j

/-- Drops halted and hopeless readings and joins those that have met. The least cost of a reading
that is not in trouble. -/
def prune : Nat → Nat → Option Nat → Parsing (Option Nat)
  | 0, _, least => return least
  | fuel + 1, i, least => do
    let s ← stack
    if i ≥ s.versions then return least
    else if s.isHalted i then
      setStack (s.remove i)
      prune fuel i least
    else
      let mine ← standing i
      let least := if mine.inError then least
        else some (match least with
          | some l => min l mine.cost
          | none => mine.cost)
      let last ← weigh mine (2 * s.versions + 2) i 0
      prune fuel (last + 1) least

/-- If no reading goes on by itself, starts recovery on the first paused one; drops the others. -/
def resume : Nat → Nat → Nat → Bool → Option Nat → Parsing (Option Nat)
  | 0, _, _, _, least => return least
  | fuel + 1, i, n, going, least => do
    if i ≥ n then return least
    else
      let s ← stack
      match (s.head i).status with
      | .paused lookahead =>
        if !going && (← get).accepted < mostVersions then
          let cost := s.cost i
          modifyStack fun s => s.modifyHead i fun h => { h with status := .active }
          handleError i lookahead
          resume fuel (i + 1) n true (some cost)
        else
          setStack (s.remove i)
          resume fuel i (n - 1) going least
      | _ => resume fuel (i + 1) n true least

def condense : Parsing (Option Nat) := do
  let least ← prune (4 * (← stack).versions + 4) 0 none
  modifyStack fun s => { s with heads := s.heads.extract 0 mostVersions }
  let n := (← stack).versions
  resume (2 * n + 2) 0 n false least

def readAll : Nat → Nat → Parsing Unit
  | 0, _ => return
  | fuel + 1, furthest => do
    let furthest ← advanceAll 1000 0 furthest
    let least ← condense
    let done := match (← get).finished?, least with
      | some f, some l => f.info.cost < l
      | some _, none => true
      | none, _ => false
    if done || (← stack).versions = 0 then return
    else readAll fuel furthest

end Parsing

/-- What a dialect's parser needs, computed once. -/
structure Language where
  automaton : Automaton
  lexicon : Lexicon
  deriving Inhabited

def Language.ofRules (rs : RuleSet) : Language :=
  let g := Productions.ofRules rs
  let a := Automaton.ofProductions g
  { automaton := a, lexicon := Lexicon.ofProductions g a.keywords }

def Language.parse (l : Language) (source : Source) : Part :=
  let start : Run :=
    { automaton := l.automaton, lexicon := l.lexicon, source
      stack := Stack.empty Automaton.startState, finished? := none, accepted := 0
      last? := none }
  let (_, r) := (Parsing.readAll (100 * (source.size + 100)) 0).run start
  r.finished?.getD (Part.ofChildren l.automaton.vocabulary source .error none [] 0)

end StorefrontSurvey.Script
