/-!
Sets of small numbers, kept as the bits of one number. They are read through `has` and `toList`
only.
-/
namespace StorefrontSurvey.Script

/-- A set of small numbers: bit `n` tells whether `n` is in it. -/
abbrev Bits := Nat

namespace Bits

def has (s : Bits) (n : Nat) : Bool := Nat.testBit s n

def single (n : Nat) : Bits := 1 <<< n

def union (s t : Bits) : Bits := s ||| t

def inter (s t : Bits) : Bits := s &&& t

def meets (s t : Bits) : Bool := s &&& t != 0

/-- The members of the first set that are not in the second. -/
def without (s t : Bits) : Bits := s ^^^ (s &&& t)

def insert (s : Bits) (n : Nat) : Bits := s ||| single n

def ofList (ns : List Nat) : Bits := ns.foldl insert 0

def unions (ss : List Bits) : Bits := ss.foldl union 0

/-- The members among a number of consecutive numbers, given by their bits. -/
def wordMembers : Nat → Nat → Nat → List Nat
  | 0, _, _ => []
  | width + 1, first, word =>
    if word = 0 then []
    else if word % 2 = 1 then first :: wordMembers width (first + 1) (word / 2)
    else wordMembers width (first + 1) (word / 2)

/-- The members from a number on, read in stretches of 32. -/
def membersFrom : Nat → Nat → Bits → List Nat
  | 0, _, _ => []
  | fuel + 1, first, s =>
    if s = 0 then []
    else wordMembers 32 first (s % 4294967296) ++ membersFrom fuel (first + 32) (s >>> 32)

def toList (s : Bits) : List Nat := membersFrom (Nat.log2 s + 1) 0 s

theorem has_union (s t : Bits) (n : Nat) : (s.union t).has n = (s.has n || t.has n) :=
  Nat.testBit_or s t n

theorem has_inter (s t : Bits) (n : Nat) : (s.inter t).has n = (s.has n && t.has n) :=
  Nat.testBit_and s t n

theorem has_without (s t : Bits) (n : Nat) : (s.without t).has n = (s.has n && !t.has n) := by
  simp only [has, without, Nat.testBit_xor, Nat.testBit_and]
  cases Nat.testBit s n <;> cases Nat.testBit t n <;> rfl

end Bits
end StorefrontSurvey.Script
