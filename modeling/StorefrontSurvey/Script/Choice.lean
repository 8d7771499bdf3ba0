import StorefrontSurvey.Script.Core
/-!
What a parser does on a lexeme when several things are possible. Ranks decide where they can: the
rule that binds tighter wins, and between equal ranks the side on which a rule associates. What they
leave open stays open, and the parser follows all of it.
-/
namespace StorefrontSurvey.Script

inductive Taking where
  | refused
  | taken
  /-- Taking it would only split a repetition in another way, so it is never done. -/
  | idle
  deriving DecidableEq, Repr, Inhabited

structure Choice where
  endings : List Ending
  taking : Taking
  deriving DecidableEq, Repr, Inhabited

namespace Productions

/-- Whether a place in a ranking speaks of a rank or of one of some rules. -/
def rankMatches (g : Productions) (entry : RankEntry) (rank : Rank) (rules : List Nat) : Bool :=
  match entry with
  | .name n => rank == .named n
  | .rule n => rules.any fun s => g.names.getD s "" == n

/-- Compares two ranks by a ranking: whether the first or the second has been met on the way. -/
def rankedIn (g : Productions) (a : Rank) (as : List Nat) (b : Rank) (bs : List Nat) :
    List RankEntry → Bool → Bool → Option Ordering
  | [], _, _ => none
  | e :: rest, seenA, seenB =>
    if g.rankMatches e a as then
      if seenB then some .lt else rankedIn g a as b bs rest true seenB
    else if g.rankMatches e b bs then
      if seenA then some .gt else rankedIn g a as b bs rest seenA true
    else rankedIn g a as b bs rest seenA seenB

/-- Compares two ranks that some rules carry: levels by number, other ranks by the first ranking
that orders them. -/
def compareRanks (g : Productions) (a : Rank) (as : List Nat) (b : Rank) (bs : List Nat) :
    Ordering :=
  let byRanking := (g.rankings.findSome? fun r => g.rankedIn a as b bs r false false).getD .eq
  match a, b with
  | .level m, .level n => if m ≠ 0 || n ≠ 0 then compare m n else byRanking
  | .level m, .unranked => if m ≠ 0 then compare m 0 else byRanking
  | .unranked, .level n => if n ≠ 0 then compare 0 n else byRanking
  | _, _ => byRanking

end Productions

/-- The endings kept so far on a lexeme, with the rank, the rules and the sides they bring. -/
structure Standoff where
  endings : List Ending
  rank : Rank
  rules : List Nat
  left : Bool
  right : Bool
  plain : Bool

namespace Standoff

def none : Standoff := ⟨[], .unranked, [], false, false, false⟩

def add (g : Productions) (s : Standoff) (e : EndedItem) : Standoff :=
  let order := if s.endings.isEmpty then Ordering.eq
    else g.compareRanks e.rank [e.result] s.rank s.rules
  match order with
  | .lt => s
  | order =>
    let s := if order = .gt then none else s
    { endings := s.endings ++ [e.ending], rank := e.rank, rules := e.result :: s.rules
      left := s.left || e.side == some .left
      right := s.right || e.side == some .right
      plain := s.plain || e.side.isNone }

end Standoff

namespace Core

/-- Settles whether a lexeme is taken where items could also end. -/
def settleTaking (g : Productions) (c : Core) (ended : List EndedItem) (s : Standoff)
    (lexeme : Nat) : Choice :=
  let going := c.opened.filter fun o => o.first.has lexeme
  let rules := (((going.map (·.result)) ++ ended.map (·.result)).filter
    (· ≠ Items.whole g)).eraseDups
  if rules.length = 1 && rules.all fun r => g.kinds.getD r .named = .repetition then
    ⟨s.endings, .idle⟩
  else
    let orders := going.map fun o => g.compareRanks o.rank [o.result] s.rank s.rules
    let tighter := orders.contains .gt
    let looser := orders.contains .lt
    if tighter && !looser then ⟨[], .taken⟩
    else if looser && !tighter then ⟨s.endings, .refused⟩
    else if tighter || looser then ⟨s.endings, .taken⟩
    else if s.left && !s.right && !s.plain then ⟨s.endings, .refused⟩
    else if s.right && !s.left && !s.plain then ⟨[], .taken⟩
    else ⟨s.endings, .taken⟩

/-- What is done on a lexeme after which some items end; with `shifted` the lexeme may be taken. -/
def choose (g : Productions) (c : Core) (ended : List EndedItem) (shifted : Bool)
    (lexeme : Nat) : Choice :=
  let s := ended.foldl (Standoff.add g) .none
  if shifted then c.settleTaking g ended s lexeme else ⟨s.endings, .refused⟩

end Core

/-- Lexemes sorted by what is done on them. -/
abbrev Choices := List (Bits × Choice)

namespace Choices

def add (cs : Choices) (lexemes : Bits) (choice : Choice) : Choices :=
  match cs with
  | [] => [(lexemes, choice)]
  | (known, c) :: rest =>
    if c = choice then (known.union lexemes, c) :: rest else (known, c) :: add rest lexemes choice

def lexemes (cs : Choices) : Bits := cs.foldl (fun s e => s.union e.1) 0

def taken (cs : Choices) : Bits :=
  cs.foldl (fun s e => if e.2.taking = .refused then s else s.union e.1) 0

end Choices

/-- Choices already worked out: by core, by the items that end and by lexeme. -/
abbrev KnownChoices := Std.HashMap (Nat × Bits × Nat) Choice

namespace Core

/-- Lexemes sorted by which of the ended items they may follow, each with those items in order. -/
def sortEnded (ended : List (Nat × EndedItem × Bits)) : List (Bits × List (Nat × EndedItem)) :=
  ended.foldl (fun parts (i, e, follow) =>
    let split := parts.flatMap fun (s, es) =>
      [(s.inter follow, es ++ [(i, e)]), (s.without follow, es)]
    let alone := parts.foldl (fun rest part => rest.without part.1) follow
    ((alone, [(i, e)]) :: split).filter fun part => part.1 ≠ 0) []

/-- The choices of a state on a core, given what may follow each item of the core. -/
def choices (g : Productions) (number : Nat) (c : Core) (sets : Array Bits)
    (known : KnownChoices) : Choices × KnownChoices :=
  let ended := c.ended.zipIdx.map fun (e, i) => (i, e, e.follow.read sets)
  let after := ended.foldl (fun s e => s.union e.2.2) 0
  let free := c.shifts.without after
  let start : Choices := if free = 0 then [] else [(free, ⟨[], .taken⟩)]
  (sortEnded ended).foldl (fun (cs, known) (lexemes, es) =>
    let items := es.map (·.2)
    let ending := lexemes.without c.shifts
    let cs := if ending = 0 then cs else cs.add ending (c.choose g items false 0)
    let active := Bits.ofList (es.map (·.1))
    (lexemes.inter c.shifts).toList.foldl (fun (cs, known) lexeme =>
      match known[(number, active, lexeme)]? with
      | some choice => (Choices.add cs (Bits.single lexeme) choice, known)
      | none =>
        let choice := c.choose g items true lexeme
        (Choices.add cs (Bits.single lexeme) choice,
          known.insert (number, active, lexeme) choice)) (cs, known)) (start, known)

end Core
end StorefrontSurvey.Script
