import Std.Data.HashMap
import StorefrontSurvey.Script.Rule
/-!
Productions: a rule set flattened into sequences of symbols. Symbols are numbers; zero is the end of
the text, the word lexeme comes next, then the other lexemes in the order in which the rules first
use them, then layout lexemes, then rules, then the repetitions inside rules. Rules that no text can
reach are left out.

A repetition of an item is a rule of its own, either two of itself or one item. A rule that is a
lexeme used nowhere else is that lexeme under the rule's name. A label under which a symbol is
always shown belongs to the symbol, and no place repeats it.
-/
namespace StorefrontSurvey.Script

open Std (HashMap)

/-- A place of a production: the symbol there and how the place is ranked and shown. -/
structure Place where
  symbol : Nat
  rank : Rank
  side : Option Side
  label : Option Label
  field : Option String
  deriving DecidableEq, Repr, Inhabited

structure Production where
  /-- The symbol that the production builds. -/
  result : Nat
  places : List Place
  weight : Int
  deriving DecidableEq, Repr, Inhabited

structure Appearance where
  name : String
  /-- Hidden symbols give way to their parts. -/
  visible : Bool
  named : Bool
  deriving DecidableEq, Repr, Inhabited

inductive SymbolKind where
  /-- A rule that is not shown. -/
  | hidden
  /-- The repetition of an item. -/
  | repetition
  /-- A rule that is shown under its name. -/
  | named
  deriving DecidableEq, Repr, Inhabited

structure Productions where
  /-- The lexeme of each symbol below `lexemes.size`; the end of the text has none. -/
  lexemes : Array (Option Lexeme)
  /-- The name of every symbol. -/
  names : Array String
  appearances : Array Appearance
  kinds : Array SymbolKind
  /-- Symbols that are always shown under a label. -/
  relabelled : Array Bool
  /-- Where a symbol comes among all symbols: layout lexemes first, then the end of the text, then
  the other lexemes in the order of their first use, then rules. -/
  ordinals : Array Nat
  productions : Array Production
  start : Nat
  word : Nat
  extras : List Nat
  groups : List Nat
  rankings : List (List RankEntry)
  deriving Inhabited

namespace Productions

def symbolCount (g : Productions) : Nat := g.names.size

def isLexeme (g : Productions) (symbol : Nat) : Bool := symbol < g.lexemes.size

def lexeme? (g : Productions) (symbol : Nat) : Option Lexeme := (g.lexemes[symbol]?).join

def isLayout (g : Productions) (symbol : Nat) : Bool :=
  match g.lexeme? symbol with
  | some (.ofLayout _) => true
  | _ => false

/-- Lexemes that are told by their characters alone. -/
def plainLexemes (g : Productions) : List Nat :=
  (List.range g.lexemes.size).filter fun s => s ≠ 0 && !g.isLayout s

/-- The symbol of a lexeme; one that no text holds if the grammar does not use the lexeme. -/
def symbolOf (g : Productions) (l : Lexeme) : Nat :=
  (g.lexemes.findIdx? (· == some l)).getD g.names.size

def ordinal (g : Productions) (symbol : Nat) : Nat := g.ordinals.getD symbol symbol

end Productions

/-! ### Lexemes of a rule set -/

namespace Rule

def uses : Rule → List String
  | .blank => []
  | .symbol name => [name]
  | .lexeme _ => []
  | .seq a b => a.uses ++ b.uses
  | .choice a b => a.uses ++ b.uses
  | .repeat1 a => a.uses
  | .ranked _ _ a => a.uses
  | .weighted _ a => a.uses
  | .field _ a => a.uses
  | .shown _ a => a.uses

def lexemes : Rule → List Lexeme
  | .blank => []
  | .symbol _ => []
  | .lexeme l => [l]
  | .seq a b => a.lexemes ++ b.lexemes
  | .choice a b => a.lexemes ++ b.lexemes
  | .repeat1 a => a.lexemes
  | .ranked _ _ a => a.lexemes
  | .weighted _ a => a.lexemes
  | .field _ a => a.lexemes
  | .shown _ a => a.lexemes

/-- A rule with every repetition replaced by a reference, and the repeated items in the order in
which they are met; an item met before keeps its reference. -/
def liftRepeats (owner : String) :
    Rule → List (Rule × String) × Nat → Rule × (List (Rule × String) × Nat)
  | .seq a b, s =>
    let (a', s) := a.liftRepeats owner s
    let (b', s) := b.liftRepeats owner s
    (.seq a' b', s)
  | .choice a b, s =>
    let (a', s) := a.liftRepeats owner s
    let (b', s) := b.liftRepeats owner s
    (.choice a' b', s)
  | .repeat1 a, s =>
    let (a', s) := a.liftRepeats owner s
    match s.1.find? (fun known => known.1 == a') with
    | some known => (.symbol known.2, s)
    | none =>
      let name := owner ++ "_repeat" ++ toString (s.2 + 1)
      (.symbol name, (s.1 ++ [(a', name)], s.2 + 1))
  | .ranked r sd a, s => let (a', s) := a.liftRepeats owner s; (.ranked r sd a', s)
  | .weighted w a, s => let (a', s) := a.liftRepeats owner s; (.weighted w a', s)
  | .field n a, s => let (a', s) := a.liftRepeats owner s; (.field n a', s)
  | .shown l a, s => let (a', s) := a.liftRepeats owner s; (.shown l a', s)
  | r, s => (r, s)

end Rule

/-! ### Flattening -/

/-- What the rules around a place say about it. -/
structure Context where
  rank : Rank
  side : Option Side
  label : Option Label
  field : Option String

/-- One way through a rule: its places and the weight of greatest size met on the way. -/
structure Path where
  places : List Place
  weight : Int

/-- The place at the end of a list changed by a function. -/
def modifyLast (f : Place → Place) : List Place → List Place
  | [] => []
  | [p] => [f p]
  | p :: ps => p :: modifyLast f ps

/-- Of two weights the one of greater size, the first of two equally great ones. -/
def heavier (a b : Int) : Int := if b.natAbs > a.natAbs then b else a

/-- Every way through the first part followed by every way through the second. -/
def joinPaths (heads rests : List Path) : List Path :=
  heads.flatMap fun h => rests.map fun r => ⟨h.places ++ r.places, heavier h.weight r.weight⟩

/-- All ways through a rule. A rank or side covers every place inside it except the last, unless the
rule ends there: what follows the last place is no longer inside. -/
def Rule.paths (number : Lexeme ⊕ String → Nat) : Rule → Context → Bool → List Path
  | .blank, _, _ => [⟨[], 0⟩]
  | .symbol name, c, _ => [⟨[⟨number (.inr name), c.rank, c.side, c.label, c.field⟩], 0⟩]
  | .lexeme l, c, _ => [⟨[⟨number (.inl l), c.rank, c.side, c.label, c.field⟩], 0⟩]
  | .seq a b, c, ends => joinPaths (a.paths number c false) (b.paths number c ends)
  | .choice a b, c, ends => a.paths number c ends ++ b.paths number c ends
  | .repeat1 a, c, ends => a.paths number c ends
  | .ranked rank side a, c, ends =>
    let inner := { c with rank, side := side <|> c.side }
    (a.paths number inner ends).map fun p =>
      if ends then p
      else
        let reset := fun (q : Place) =>
          { q with rank := c.rank, side := if side.isSome then c.side else q.side }
        { p with places := modifyLast reset p.places }
  | .weighted w a, c, ends =>
    (a.paths number c ends).map fun p => { p with weight := heavier w p.weight }
  | .field name a, c, ends => a.paths number { c with field := some name } ends
  | .shown label a, c, ends => a.paths number { c with label := some label } ends

def dedup (ps : List Production) : List Production :=
  (ps.foldl (fun (seen : HashMap Nat (List Production) × List Production) p =>
    let key := p.places.foldl (fun k q => (k * 1021 + q.symbol + 1) % 1000000007) 7
    let bucket := seen.1.getD key []
    if bucket.contains p then seen else (seen.1.insert key (p :: bucket), p :: seen.2))
    (∅, [])).2.reverse

/-! ### Inlining -/

/-- The places of one way through an inlined rule, put where the rule was used: the use decides the
label and the field, and ranks the last place if that has no rank of its own. -/
def substitute (use : Place) (body : List Place) : List Place :=
  let relabelled := body.map fun p =>
    { p with label := use.label <|> p.label, field := use.field <|> p.field }
  modifyLast (fun p => { p with
    rank := if p.rank = .unranked then use.rank else p.rank
    side := p.side <|> use.side }) relabelled

/-- All forms of a list of places with every inlined rule replaced by its parts, for as many rounds
as inlined rules nest. -/
def inlinedForms (bodies : Nat → Option (List Path)) : Nat → List Place → List Path
  | 0, places => [⟨places, 0⟩]
  | depth + 1, places =>
    places.foldr (fun place rests => joinPaths (match bodies place.symbol with
      | none => [⟨[place], 0⟩]
      | some forms => forms.flatMap fun (form : Path) =>
        (inlinedForms bodies depth (substitute place form.places)).map fun (p : Path) =>
          { p with weight := heavier form.weight p.weight }) rests) [⟨[], 0⟩]

/-! ### The flattened grammar of a rule set -/

/-- The rules reached from some names, added to those reached before. -/
def reachRules (bodies : HashMap String Rule) :
    Nat → List String → HashMap String Unit → HashMap String Unit
  | 0, _, seen => seen
  | _, [], seen => seen
  | fuel + 1, name :: rest, seen =>
    if seen.contains name then reachRules bodies fuel rest seen
    else
      let next := ((bodies[name]?).map Rule.uses).getD []
      reachRules bodies fuel (next ++ rest) (seen.insert name ())

/-- The rules that a text can reach: those that the first rule, the extras and the word lead to. -/
def RuleSet.reached (rs : RuleSet) : List (String × Rule) :=
  let first := (rs.rules.head?.map (·.1)).getD ""
  let total := rs.rules.foldl (fun n r => n + r.2.uses.length + 1) 1
  let seen := reachRules (HashMap.ofList rs.rules) (total + rs.extras.length + 2)
    (first :: rs.word :: rs.extras) ∅
  rs.rules.filter fun r => seen.contains r.1

/-- The lexemes in the order of their first use, each with the number of its uses. -/
def countLexemes (rules : List (String × Rule)) : Array Lexeme × HashMap Lexeme Nat :=
  rules.foldl (fun acc rule => rule.2.lexemes.foldl (fun acc l =>
    match acc.2[l]? with
    | some uses => (acc.1, acc.2.insert l (uses + 1))
    | none => (acc.1.push l, acc.2.insert l 1)) acc) (#[], ∅)

def Lexeme.spelling : Lexeme → String
  | .text spelling => spelling
  | .ofClass .patternEnd => "/"
  | _ => ""

/-- A rule that is nothing but a lexeme of its own. -/
def ownLexeme? (uses : HashMap Lexeme Nat) (first : String) (rule : String × Rule) :
    Option (Lexeme × String) :=
  match rule.2 with
  | .lexeme l => if rule.1 ≠ first ∧ uses.getD l 0 = 1 then some (l, rule.1) else none
  | _ => none

/-- The labels that a symbol carries in all of its uses: `none` when it is used without one. -/
abbrev LabelUses := Array (Option (List (Label × Nat)))

def countLabel (uses : LabelUses) (place : Place) : LabelUses :=
  uses.modify place.symbol fun known =>
    match known, place.label with
    | none, _ => none
    | some _, none => none
    | some ls, some l =>
      some (if ls.any (·.1 == l) then ls.map fun e => if e.1 == l then (e.1, e.2 + 1) else e
        else ls ++ [(l, 1)])

/-- The label a symbol is always shown under, if it never appears without one: the most frequent,
and of equally frequent ones the first. -/
def usualLabel (uses : Option (List (Label × Nat))) : Option Label :=
  match uses with
  | none => none
  | some ls => (ls.foldl (fun best e => match best with
      | none => some e
      | some b => if b.2 < e.2 then some e else some b) none).map (·.1)

def isHiddenName (name : String) : Bool := name.startsWith "_"

/-- Flattens a rule set. The first rule is the start. -/
def Productions.ofRules (rs : RuleSet) : Productions :=
  let rules := rs.reached
  let first := (rules.head?.map (·.1)).getD ""
  let (lexemes, uses) := countLexemes rules
  let own := rules.filterMap (ownLexeme? uses first)
  let ownName : HashMap Lexeme String := HashMap.ofList own
  let isWord := fun l => ownName[l]? == some rs.word
  let ordered := lexemes.filter isWord ++ lexemes.filter (!isWord ·)
  let lexemeNames := ordered.map fun l => (ownName[l]?).getD l.spelling
  let lexemeTable := #[none] ++ ordered.map some ++
    (rs.layout.map fun e => some (Lexeme.ofLayout e.2)).toArray
  let tokenNames := #["end"] ++ lexemeNames ++ (rs.layout.map (·.1)).toArray
  let ruleList := rules.filter fun rule => (ownLexeme? uses first rule).isNone
  let (lifted, repeats) := ruleList.foldl (fun acc rule =>
    let (body, found) := rule.2.liftRepeats rule.1 (acc.2, 0)
    (acc.1 ++ [(rule.1, body)], found.1)) (([] : List (String × Rule)), [])
  let repeatRules := repeats.map fun e =>
    (e.2, Rule.choice (.seq (.symbol e.2) (.symbol e.2)) e.1)
  let allRules := lifted ++ repeatRules
  let names := tokenNames ++ (allRules.map (·.1)).toArray
  let byLexeme : HashMap Lexeme Nat :=
    HashMap.ofList (ordered.toList.zipIdx.map fun e => (e.1, e.2 + 1))
  let named : List (String × Nat) := own.map (fun e => (e.2, byLexeme.getD e.1 0)) ++
    (rs.layout.zipIdx.map fun e => (e.1.1, 1 + ordered.size + e.2)) ++
    (allRules.zipIdx.map fun e => (e.1.1, tokenNames.size + e.2))
  let byName : HashMap String Nat := HashMap.ofList named
  let number : Lexeme ⊕ String → Nat
    | .inl l => byLexeme.getD l 0
    | .inr name => byName.getD name 0
  let flat : List (Nat × List Production) := allRules.map fun rule =>
    let symbol := byName.getD rule.1 0
    (symbol, dedup ((rule.2.paths number ⟨.unranked, none, none, none⟩ true).map fun p =>
      ⟨symbol, p.places, p.weight⟩))
  let inlined := rs.inlined.map fun name => byName.getD name 0
  let extras := rs.extras.map fun name => byName.getD name 0
  let noUses : LabelUses := Array.replicate names.size (some [])
  let labelUses := flat.foldl (fun acc e =>
    e.2.foldl (fun acc p => p.places.foldl countLabel acc) acc) noUses
  let labelUses := (extras ++ inlined).foldl (fun acc s => acc.modify s fun _ => none) labelUses
  let usual := fun symbol => usualLabel ((labelUses[symbol]?).join)
  let unlabel := fun (q : Place) =>
    if q.label.isSome && q.label == usual q.symbol then { q with label := none } else q
  let flat := flat.map fun e =>
    (e.1, e.2.map fun (p : Production) => { p with places := p.places.map unlabel })
  let inlinedBodies : HashMap Nat (List Path) :=
    HashMap.ofList ((flat.filter fun e => inlined.contains e.1).map fun e =>
      (e.1, e.2.map fun p => ⟨p.places, p.weight⟩))
  let repeatNames : HashMap String Unit := HashMap.ofList (repeats.map fun e => (e.2, ()))
  let isHidden := fun name => isHiddenName name || rs.groups.contains name
  let ownAppearance : Nat → Appearance := fun symbol =>
    let name := names.getD symbol ""
    if symbol < tokenNames.size then
      match (lexemeTable[symbol]?).join with
      | some l =>
        let isOwn := ownName.contains l
        match l with
        | .ofLayout _ => ⟨name, !isHiddenName name, true⟩
        | _ => ⟨name, !isOwn || !isHiddenName name, isOwn⟩
      | none => ⟨name, false, true⟩
    else ⟨name, !(isHidden name || repeatNames.contains name), true⟩
  let symbols := (List.range names.size).toArray
  let ordinalOf := fun symbol =>
    if symbol = 0 then rs.layout.length
    else if symbol ≤ ordered.size then
      rs.layout.length + 1 + (lexemes.findIdx? (some · == (ordered[symbol - 1]?))).getD 0
    else if symbol < tokenNames.size then symbol - 1 - ordered.size
    else symbol
  { lexemes := lexemeTable
    names
    appearances := symbols.map fun symbol => match usual symbol with
      | some label => ⟨label.name, true, label.named⟩
      | none => ownAppearance symbol
    kinds := names.map fun name =>
      if repeatNames.contains name then .repetition
      else if isHidden name then .hidden else .named
    relabelled := symbols.map fun symbol => (usual symbol).isSome
    ordinals := symbols.map ordinalOf
    productions := ((flat.filter fun e => !inlined.contains e.1).flatMap fun e =>
      dedup (e.2.flatMap fun p =>
        (inlinedForms (fun s => inlinedBodies[s]?) rs.inlined.length p.places).map fun q =>
          ⟨e.1, q.places, heavier p.weight q.weight⟩)).toArray
    start := byName.getD first 0
    word := byName.getD rs.word 0
    extras
    groups := rs.groups.map fun name => byName.getD name 0
    rankings := rs.rankings }

end StorefrontSurvey.Script
