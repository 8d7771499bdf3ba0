import Std.Data.HashMap
import StorefrontSurvey.Script.Overlap
/-!
What can be told apart where several lexemes are looked for: which lexemes are keywords, which may
newly be expected beside others, which one reader may look for, and which are looked for in damaged
text, where nothing in particular is expected.
-/
namespace StorefrontSurvey.Script

open Std (HashMap)

structure Distinctions where
  /-- Words that are lexemes of their own where they are expected. -/
  keywords : Bits
  /-- Lexemes that no state may newly expect. -/
  reserved : Bits
  /-- For each lexeme, those beside which it must not newly be expected. -/
  clashes : Array Bits
  /-- For each lexeme, those that are not looked for by one reader with it. -/
  rivals : Array Bits
  /-- Lexemes that are told by their characters and are looked for in damaged text. -/
  distinct : Bits
  deriving Inhabited

namespace Productions

/-- Lexemes that layout looks out for, though their characters tell them too. -/
def watchedLexemes (g : Productions) : List Nat :=
  [.text "||", .ofClass .escape, .ofClass .patternBody].map g.symbolOf

end Productions

namespace Distinctions

/-- For each lexeme, those that are together with it in some set. -/
def companions (size : Nat) (sets : List Bits) : Array Bits :=
  sets.foldl (fun acc s => s.toList.foldl (fun acc l => acc.modify l (·.union s)) acc)
    (Array.replicate size 0)

/-- Whether a lexeme opens with letters only. -/
def opensAsWord (m : Machine) (lexeme : Nat) : Bool :=
  (m.spread [(m.traits lexeme).start]).all fun n => match m.node n with
    | .take set separator _ => separator || set.without CharSet.wordLetters = 0
    | _ => true

/-- Lexemes whose texts are words, and that are preferred to the word lexeme. -/
def wordLexemes (g : Productions) (m : Machine) (o : Overlaps) : List Nat :=
  g.plainLexemes.filter fun l =>
    let stand := o.between l g.word
    l ≠ g.word && stand.winsTie && !stand.standsAlone && opensAsWord m l

/-- A word lexeme is a keyword if no other one has its texts, and if it competes with the lexemes
that are expected without the word lexeme as a word does. -/
def keywordsOf (g : Productions) (m : Machine) (o : Overlaps) (sets : List Bits) : List Nat :=
  let words := wordLexemes g m o
  let others := g.plainLexemes.filter (!words.contains ·)
  let beside := companions g.lexemes.size (sets.filter (!·.has g.word))
  words.filter fun l =>
    words.all (fun w => w = l || !(o.between w l).winsTie) &&
    others.all fun n =>
      !(beside.getD l 0).has n || o.between l n = o.between g.word n

/-- Lexemes looked for in damaged text. A lexeme that may be read on where another one ends is left
out if it could be taken for one that never is, unless some state expects both. -/
def distinctLexemes (g : Productions) (o : Overlaps) (beside : Array Bits) (keywords : List Nat) :
    List Nat :=
  let together := fun a b => (beside.getD a 0).has b
  let clear := g.plainLexemes.filter fun a =>
    g.plainLexemes.all fun b => b = a || together a b || !o.isLonger a b
  g.plainLexemes.filter fun a =>
    a = g.word || keywords.contains a || clear.contains a ||
      clear.all fun b => together a b || !o.conflict a b

/-- The lexemes of a grammar that fulfil a condition together with each of its lexemes. -/
def pairSets (g : Productions) (holds : Nat → Nat → Bool) : Array Bits :=
  (List.range g.lexemes.size).toArray.map fun a =>
    if a = 0 || g.isLayout a then 0 else Bits.ofList (g.plainLexemes.filter (holds a))

/-- What can be told apart, given the sets of lexemes that states expect. -/
def ofSets (g : Productions) (m : Machine) (o : Overlaps) (sets : List Bits) : Distinctions :=
  let beside := companions g.lexemes.size sets
  let keywords := keywordsOf g m o sets
  let isKeyword := (Bits.ofList keywords).has
  { keywords := Bits.ofList keywords
    reserved := Bits.ofList
      ((List.range g.lexemes.size).filter g.isLayout ++ g.watchedLexemes)
    clashes := pairSets g fun a b =>
      o.conflict a b && !(a = g.word && isKeyword b) && !(b = g.word && isKeyword a)
    rivals := pairSets g fun a b =>
      o.conflict a b || (o.between a b).cutsShort ||
        !(beside.getD a 0).has b && (o.overlap a b || o.overlap b a)
    distinct := Bits.ofList (distinctLexemes g o beside keywords) }

/-- Whether a lexeme may newly be expected beside others. -/
def admits (d : Distinctions) (others : Bits) (lexeme : Nat) : Bool :=
  !d.reserved.has lexeme && !others.meets (d.clashes.getD lexeme 0)

/-- Whether one reader may look for all lexemes of two sets. -/
def sharesReader (d : Distinctions) (a b : Bits) : Bool :=
  (a.without b).toList.all (fun l => !b.meets (d.rivals.getD l 0)) &&
  (b.without a).toList.all fun l => !a.meets (d.rivals.getD l 0)

end Distinctions
end StorefrontSurvey.Script
