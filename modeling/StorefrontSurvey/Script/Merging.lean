import StorefrontSurvey.Script.Distinction
import StorefrontSurvey.Script.States
/-!
Which states may be one. States with one core belong together unless they do different things on a
lexeme, or one of them would newly expect a lexeme that could be taken for another; and states that
lead to states apart are apart themselves.
-/
namespace StorefrontSurvey.Script

open Std (HashMap)

structure Profile where
  core : Nat
  choices : Choices
  expected : Bits
  deriving BEq, Inhabited

instance : Hashable Profile where
  hash p := p.choices.foldl (fun h e => mixHash h e.1.digest)
    (mixHash (hash p.core) p.expected.digest)

namespace Profile

/-- Whether a lexeme that only the first profile expects must not be expected by the second. -/
def intrudes (d : Distinctions) (p q : Profile) : Bool :=
  !(p.expected.without q.expected).toList.all (d.admits q.expected)

/-- Whether something else is done on a lexeme that both profiles expect. -/
def differ (extras : Bits) (p q : Profile) : Bool :=
  p.choices.any (fun a => q.choices.any fun b => a.1.meets b.1 && a.2 != b.2) ||
    (p.choices.lexemes.inter extras) != (q.choices.lexemes.inter extras)

/-- Whether states with these profiles must stay apart. -/
def conflicts (d : Distinctions) (extras : Bits) (p q : Profile) : Bool :=
  p != q && (intrudes d p q || intrudes d q p || differ extras p q)

end Profile

structure Grouping where
  groupOf : Array Nat
  groups : Array (List Nat)
  deriving Inhabited

namespace Grouping

def ofCores (s : States) : Grouping :=
  { groupOf := s.coreOf
    groups := (List.range s.coreOf.size).foldr (fun state acc =>
      acc.modify (s.coreOf.getD state 0) (state :: ·)) (Array.replicate s.cores.size []) }

/-- Moves some states of a group to a new group. -/
def splitOff (g : Grouping) (group : Nat) (staying leaving : List Nat) : Grouping :=
  let ⟨groupOf, groups⟩ := g
  let new := groups.size
  ⟨leaving.foldl (fun acc state => acc.setIfInBounds state new) groupOf,
    (groups.setIfInBounds group staying).push leaving⟩

/-- Splits every group from a number on, those that come off included. -/
def splitFrom (split : Grouping → List Nat → List Nat × List Nat) :
    Nat → Nat → Grouping → Grouping
  | 0, _, g => g
  | fuel + 1, group, g =>
    match g.groups[group]? with
    | none => g
    | some members =>
      let (staying, leaving) := split g members
      splitFrom split fuel (group + 1)
        (if leaving.isEmpty then g else g.splitOff group staying leaving)

/-- The members that get along with all members before them, and the others in the order in which
they are sent off. Members that are alike send off the same ones. -/
def separate (alike clash : Nat → Nat → Bool) :
    Nat → List Nat → List Nat → List Nat × List Nat
  | 0, _, members => (members, [])
  | _, _, [] => ([], [])
  | fuel + 1, seen, m :: rest =>
    if seen.any (alike m) then
      let (staying, leaving) := separate alike clash fuel seen rest
      (m :: staying, leaving)
    else
      let (near, sent) := rest.partition (!clash m ·)
      let (staying, leaving) := separate alike clash fuel (m :: seen) near
      (m :: staying, sent ++ leaving)

end Grouping

structure Merging where
  states : States
  distinctions : Distinctions
  extras : Bits
  profiles : Array Profile
  /-- The profile of each state by number. -/
  profileOf : Array Nat
  /-- For each profile, the steps of its core over lexemes that are taken. -/
  lexemeSteps : Array (List Nat)
  /-- For each core, its steps over rules. -/
  ruleSteps : Array (List Nat)
  deriving Inhabited

namespace Merging

/-- The places of a core's steps whose symbols fulfil a condition. -/
def stepsWhere (c : Core) (holds : Nat → Bool) : List Nat :=
  (List.range c.steps.size).filter fun i => holds (c.steps.getD i default).symbol

/-- All profiles, and the profile of each state. -/
def numberProfiles (s : States) : Array Profile × Array Nat :=
  let (profiles, _, profileOf) := (List.range s.coreOf.size).foldl
    (fun (profiles, (numbers : HashMap Profile Nat), profileOf) state =>
      let p : Profile :=
        ⟨s.coreOf.getD state 0, s.choices.getD state [], s.expected.getD state 0⟩
      match numbers[p]? with
      | some n => (profiles, numbers, profileOf.push n)
      | none =>
        let n := profiles.size
        (profiles.push p, numbers.insert p n, profileOf.push n))
    ((#[] : Array Profile), (∅ : HashMap Profile Nat), (#[] : Array Nat))
  (profiles, profileOf)

def ofStates (g : Productions) (d : Distinctions) (s : States) : Merging :=
  let (profiles, profileOf) := numberProfiles s
  { states := s
    distinctions := d
    extras := Bits.ofList g.extras
    profiles
    profileOf
    lexemeSteps := profiles.map fun p =>
      stepsWhere (s.cores.getD p.core default) p.choices.taken.has
    ruleSteps := s.cores.map fun c => stepsWhere c (!g.isLexeme ·) }

def profile (m : Merging) (state : Nat) : Profile :=
  m.profiles.getD (m.profileOf.getD state 0) default

/-- Whether some steps lead from two states to one group each. -/
def agreeOn (m : Merging) (g : Grouping) (steps : List Nat) (a b : Nat) : Bool :=
  let ta := m.states.targets.getD a #[]
  let tb := m.states.targets.getD b #[]
  steps.all fun i =>
    let x := ta.getD i 0
    let y := tb.getD i 0
    x = y || g.groupOf.getD x 0 = g.groupOf.getD y 0

def lexemeStepsOf (m : Merging) (state : Nat) : List Nat :=
  m.lexemeSteps.getD (m.profileOf.getD state 0) []

/-- Whether two states of a group cannot be one for what they do themselves. -/
def clash (m : Merging) (g : Grouping) (a b : Nat) : Bool :=
  (m.profile a).conflicts m.distinctions m.extras (m.profile b) ||
    !m.agreeOn g (m.lexemeStepsOf a) a b

def alike (m : Merging) (g : Grouping) (a b : Nat) : Bool :=
  m.profileOf.getD a 0 = m.profileOf.getD b 0 && m.agreeOn g (m.lexemeStepsOf a) a b

def splitByDeeds (m : Merging) (g : Grouping) : Grouping :=
  g.splitFrom (fun g members => Grouping.separate (m.alike g) (m.clash g) members.length [] members)
    (m.profileOf.size + 1) 0

/-- The members that lead where the first one leads, and the others. -/
def splitMembers (m : Merging) (g : Grouping) : List Nat → List Nat × List Nat
  | [] => ([], [])
  | first :: rest =>
    let steps := m.lexemeStepsOf first ++
      m.ruleSteps.getD (m.states.coreOf.getD first 0) []
    let (near, far) := rest.partition (m.agreeOn g steps first)
    (first :: near, far)

/-- Splits groups by where their states lead until no group is split. -/
def splitByTargets (m : Merging) : Nat → Grouping → Grouping
  | 0, g => g
  | fuel + 1, g =>
    let before := g.groups.size
    let g := g.splitFrom m.splitMembers (m.profileOf.size + 1) 0
    if g.groups.size = before then g else splitByTargets m fuel g

def grouping (m : Merging) : Grouping :=
  m.splitByTargets m.profileOf.size (m.splitByDeeds (.ofCores m.states))

end Merging
end StorefrontSurvey.Script
