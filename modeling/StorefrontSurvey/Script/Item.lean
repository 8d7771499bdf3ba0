import Std.Data.HashMap
import StorefrontSurvey.Script.Bits
import StorefrontSurvey.Script.Production
/-!
Items: productions with a mark before one of their places. Items that cannot be told apart by what
they have passed or by what they expect are one item. Items are numbered in order, those that have
passed fewer places first, and one production is added whose only place is the whole text.
-/
namespace StorefrontSurvey.Script

open Std (HashMap)

/-- How a place of a production is shown, and the fields that its hidden parts bring along. -/
structure PlaceLook where
  label : Option Label
  field : Option String
  inherited : List String
  deriving DecidableEq, Repr, Inhabited

/-- The looks of a production's places, without bare places at the end. -/
abbrev Shape := List PlaceLook

namespace PlaceLook

def isBare (p : PlaceLook) : Bool := p.label.isNone && p.field.isNone && p.inherited.isEmpty

end PlaceLook

/-- A function applied until nothing changes, for a given number of rounds at most. -/
def settle {α : Type} [BEq α] (step : α → α) : Nat → α → α
  | 0, a => a
  | n + 1, a => let b := step a; if a == b then a else settle step n b

namespace Productions

/-- One round of the fields that each rule brings along by itself or through hidden parts. -/
def fieldsRound (g : Productions) (fields : Array (List String)) : Array (List String) :=
  g.productions.foldl (fun acc p => p.places.foldl (fun acc q =>
    let own := q.field.toList
    let inner := if g.kinds.getD q.symbol .named = .named then [] else fields.getD q.symbol []
    let new := (own ++ inner).filter fun f => !(acc.getD p.result []).contains f
    if new.isEmpty then acc else acc.modify p.result (· ++ new.eraseDups)) acc) fields

/-- The fields that each hidden rule brings along, in order. -/
def inheritedFields (g : Productions) : Array (List String) :=
  let all := settle g.fieldsRound (g.symbolCount + 1) (Array.replicate g.symbolCount [])
  all.mapIdx fun symbol fs =>
    if g.isLexeme symbol || g.kinds.getD symbol .named = .named then []
    else fs.mergeSort fun a b => a ≤ b

/-- One round of the lexemes at one end of every rule. -/
def edgesRound (g : Productions) (edge : List Place → Option Place) (edges : Array Bits) :
    Array Bits :=
  g.productions.foldl (fun acc p => match edge p.places with
    | none => acc
    | some q => acc.modify p.result (·.union (acc.getD q.symbol 0))) edges

/-- The lexemes that every symbol can start or end with. -/
def edgeSets (g : Productions) (edge : List Place → Option Place) : Array Bits :=
  settle (g.edgesRound edge) (g.symbolCount + 1) ((List.range g.symbolCount).toArray.map fun s =>
    if g.isLexeme s then Bits.single s else 0)

def firstSets (g : Productions) : Array Bits := g.edgeSets List.head?

def lastSets (g : Productions) : Array Bits := g.edgeSets List.getLast?

/-- The lexemes that may follow each lexeme. Those that may stand anywhere follow all and are
followed by all. -/
def followSets (g : Productions) (firsts lasts : Array Bits) : Array Bits :=
  let all := Bits.ofList g.plainLexemes
  let pairs := g.productions.foldl (fun acc p =>
    (p.places.zip (p.places.drop 1)).foldl (fun (acc : HashMap (Nat × Nat) Unit) e =>
      acc.insert (e.1.symbol, e.2.symbol) ()) acc) (∅ : HashMap (Nat × Nat) Unit)
  let direct := pairs.fold (fun acc e _ =>
    ((lasts.getD e.1 0).inter all).toList.foldl (fun acc l =>
      acc.modify l (·.union (firsts.getD e.2 0))) acc) (Array.replicate g.symbolCount 0)
  let anywhere := g.extras.filter fun s => !g.isLayout s
  anywhere.foldl (fun acc s => (acc.map (·.insert s)).setIfInBounds s all) direct

end Productions

/-! ### The order of items -/

/-- The place of a value in an ordered list; the list's length if it is not there. -/
def orderIn {α : Type} [BEq α] (values : List α) (a : α) : Nat := values.idxOf a

/-- The order of ranks: none, then levels, then names. -/
def Rank.before : Rank → Rank → Bool
  | .unranked, _ => true
  | _, .unranked => false
  | .level a, .level b => a ≤ b
  | .level _, .named _ => true
  | .named _, .level _ => false
  | .named a, .named b => a ≤ b

def Label.before (a b : Label) : Bool :=
  a.name < b.name || (a.name == b.name && (!a.named || b.named))

/-- A place as numbers that are ordered as the places are. -/
structure PlaceKey where
  symbol : Nat
  ordinal : Nat
  rank : Nat
  side : Nat
  label : Nat
  field : Nat
  /-- The symbol is hidden and brings fields along. -/
  inherits : Bool
  deriving Inhabited

structure Items where
  grammar : Productions
  /-- The productions, the one for the whole text last. -/
  productions : Array Production
  places : Array (Array Place)
  /-- For each item a production and a mark that it stands for. -/
  members : Array (Nat × Nat)
  /-- The item of each mark in each production. -/
  numbers : Array (Array Nat)
  firsts : Array Bits
  inherited : Array (List String)
  deriving Inhabited

namespace Items

/-- The symbol of the production for the whole text. -/
def whole (g : Productions) : Nat := g.symbolCount

def placeKeys (g : Productions) (inherited : Array (List String)) (ps : Array Production) :
    Array (List PlaceKey) :=
  let places := ps.toList.flatMap (·.places)
  let distinct := fun {α : Type} [BEq α] (le : α → α → Bool) (xs : List α) =>
    xs.eraseDups.mergeSort le
  let ranks := distinct Rank.before (places.map (·.rank))
  let labels := distinct Label.before (places.filterMap (·.label))
  let fields := distinct (fun a b => decide (a ≤ b)) (places.filterMap (·.field))
  ps.map fun p => p.places.map fun q =>
    { symbol := q.symbol
      ordinal := g.ordinal q.symbol
      rank := orderIn ranks q.rank
      side := match q.side with
        | none => 0
        | some .left => 1
        | some .right => 2
      label := (q.label.map fun l => orderIn labels l + 1).getD 0
      field := (q.field.map fun f => orderIn fields f + 1).getD 0
      inherits := !(inherited.getD q.symbol []).isEmpty }

/-- The key of an item. Items with equal keys are one item, and items are ordered as their keys. -/
def key (p : Production) (weightRank : Nat) (places : List PlaceKey) (mark : Nat) : List Nat :=
  let passed := places.take mark
  let rest := places.drop mark
  let inherits := passed.any (·.inherits)
  let (rank, side) := (passed.getLast?.map fun q => (q.rank, q.side)).getD (0, 0)
  [mark, p.result, weightRank, places.length, rank, side, if inherits then 1 else 0] ++
    passed.flatMap (fun q => [q.label, q.field] ++ if inherits then [q.ordinal] else []) ++
    rest.flatMap fun q => [q.ordinal, q.rank, q.side, q.label, q.field]

def listBefore : List Nat → List Nat → Bool
  | [], _ => true
  | _, [] => false
  | a :: as, b :: bs => if a < b then true else if b < a then false else listBefore as bs

/-- All keys in order with what they are the keys of. -/
def ordered (ps : Array Production) (keys : Array (List PlaceKey)) :
    List (List Nat × Nat × Nat) :=
  let weights := (ps.toList.map (·.weight)).eraseDups.mergeSort fun a b => decide (a ≤ b)
  let all := (List.range ps.size).flatMap fun i =>
    let p := ps.getD i default
    let places := keys.getD i []
    (List.range (places.length + 1)).map fun mark =>
      (key p (orderIn weights p.weight) places mark, i, mark)
  all.mergeSort fun a b => listBefore a.1 b.1

def ofProductions (g : Productions) : Items :=
  let wholePlace : Place := ⟨g.start, .unranked, none, none, none⟩
  let ps := g.productions.push ⟨whole g, [wholePlace], 0⟩
  let inherited := g.inheritedFields
  let blank := ps.map fun p => Array.replicate (p.places.length + 1) 0
  let (members, numbers, _) := (ordered ps (placeKeys g inherited ps)).foldl
    (fun (members, numbers, last) (key, i, mark) =>
      let known := last == some key
      let members := if known then members else members.push (i, mark)
      (members, numbers.modify i (·.setIfInBounds mark (members.size - 1)), some key))
    ((#[] : Array (Nat × Nat)), blank, (none : Option (List Nat)))
  { grammar := g
    productions := ps
    places := ps.map (·.places.toArray)
    members
    numbers
    firsts := g.firstSets
    inherited }

def member (t : Items) (item : Nat) : Nat × Nat := t.members.getD item (0, 0)

def number (t : Items) (production mark : Nat) : Nat := (t.numbers.getD production #[]).getD mark 0

def production (t : Items) (item : Nat) : Production :=
  t.productions.getD (t.member item).1 default

def mark (t : Items) (item : Nat) : Nat := (t.member item).2

/-- The place after the mark and those after it. -/
def placeAt (t : Items) (item offset : Nat) : Option Place :=
  (t.places.getD (t.member item).1 #[])[(t.member item).2 + offset]?

def passed? (t : Items) (item : Nat) : Option Place :=
  if t.mark item = 0 then none else (t.places.getD (t.member item).1 #[])[t.mark item - 1]?

/-- The item with the mark moved over one place. -/
def advance (t : Items) (item : Nat) : Nat := t.number (t.member item).1 (t.mark item + 1)

def firstOf (t : Items) (symbol : Nat) : Bits := t.firsts.getD symbol 0

def isRule (t : Items) (symbol : Nat) : Bool := !t.grammar.isLexeme symbol

/-- The item from which the whole text is read. -/
def start (t : Items) : Nat := t.number (t.productions.size - 1) 0

def shape (t : Items) (item : Nat) : Shape :=
  let looks := (t.production item).places.map fun q =>
    (⟨q.label, q.field, t.inherited.getD q.symbol []⟩ : PlaceLook)
  (looks.reverse.dropWhile PlaceLook.isBare).reverse

end Items
end StorefrontSurvey.Script
