import StorefrontSurvey.Script.Automaton
import StorefrontSurvey.Script.Part
import StorefrontSurvey.Script.Layout
/-!
Which lexeme stands at a position, given the state that a parser is in there.

Layout is asked first, then the state's reader. A word is a keyword if the keyword is expected;
otherwise it is a name, expected or not. Where the reader finds nothing, everything that can be told
apart is looked for, and where that finds nothing characters are passed over up to the next lexeme.
-/
namespace StorefrontSurvey.Script

open Std (HashMap)

/-- The lexemes of a grammar that need more than a reader. -/
structure Lexicon where
  keywords : HashMap String Nat
  layouts : List (Nat × LayoutClass)
  word : Nat
  operator : Nat
  escape : Nat
  pattern : Nat
  /-- The lexemes that layout looks out for. -/
  watched : Bits
  deriving Inhabited

namespace Lexicon

def ofProductions (g : Productions) (keywords : Bits) : Lexicon :=
  let layouts := (List.range g.lexemes.size).filterMap fun s => match g.lexeme? s with
    | some (.ofLayout k) => some (s, k)
    | _ => none
  { keywords := HashMap.ofList (keywords.toList.filterMap fun s =>
      (g.lexeme? s).map fun l => (l.spelling, s))
    layouts
    word := g.word
    operator := g.symbolOf (.text "||")
    escape := g.symbolOf (.ofClass .escape)
    pattern := g.symbolOf (.ofClass .patternBody)
    watched := Bits.ofList (layouts.map (·.1) ++ g.watchedLexemes) }

def layoutExpected (x : Lexicon) (a : Automaton) (state : Nat) : Layout.Expected :=
  { layout := fun k => x.layouts.any fun e => e.2 == k && a.expects state e.1
    operator := a.expects state x.operator
    escape := a.expects state x.escape
    pattern := a.expects state x.pattern }

def layoutSymbol (x : Lexicon) (k : LayoutClass) : Nat :=
  ((x.layouts.find? (·.2 == k)).map (·.1)).getD 0

def startsAsKeyword (x : Lexicon) (text : String) : Bool :=
  (List.range (text.length + 1)).any fun n => x.keywords.contains (text.take n).toString

/-- A word read as a keyword where that keyword is expected. -/
def wordPart (x : Lexicon) (a : Automaton) (s : Source) (state outer start stop : Nat) : Part :=
  let text := s.slice start stop
  match x.keywords[text]? with
  | some k =>
    Part.ofLexeme (.symbol (if a.expects state k then k else x.word)) outer start stop true
  | none => Part.ofLexeme (.symbol x.word) outer start stop (x.startsAsKeyword text)

def foundPart (x : Lexicon) (a : Automaton) (s : Source) (state outer lexeme start stop : Nat) :
    Part :=
  if lexeme = x.word then x.wordPart a s state outer start stop
  else Part.ofLexeme (.symbol lexeme) outer start stop false

/-- The end of a stretch that holds no lexeme. At least one character is passed over at a time. -/
def passOver (m : Machine) (s : Source) (r : Reader) : Nat → Nat → Nat → Nat
  | 0, _, reached => reached
  | fuel + 1, stop, reached =>
    if reached = stop && s.atEnd reached then reached
    else
      let next := if reached = stop then reached + 1 else reached
      match m.read s r next with
      | .stuck _ further => passOver m s r fuel next further
      | _ => next

def readerOf (a : Automaton) (state : Nat) : Reader :=
  a.readers.getD (a.state state).reader default

/-- The lexeme at a position when a state's reader has found none. -/
def recoverAt (x : Lexicon) (a : Automaton) (s : Source) (state p : Nat) : Part :=
  let r := readerOf a Automaton.errorState
  match a.machine.read s r p with
  | .found l start stop => x.foundPart a s state p l start stop
  | .atEnd start => Part.ofLexeme (.symbol 0) p start start false
  | .stuck start reached =>
    Part.ofLexeme .error p start (passOver a.machine s r (s.size + 1) start reached) false

/-- The layout lexeme at a position. Damaged text has no layout. `mayBeEmpty` says of a layout
lexeme without text whether it is admitted. -/
def layoutAt? (x : Lexicon) (a : Automaton) (s : Source) (state : Nat) (mayBeEmpty : Nat → Bool)
    (p : Nat) : Option Layout.Found :=
  if state = Automaton.errorState then none
  else (Layout.scan? (x.layoutExpected a state) s p).filter fun f =>
    f.stop > p || mayBeEmpty (x.layoutSymbol f.kind)

def lexemeAt (x : Lexicon) (a : Automaton) (s : Source) (state : Nat) (mayBeEmpty : Nat → Bool)
    (p : Nat) : Part :=
  match x.layoutAt? a s state mayBeEmpty p with
  | some f => Part.ofLexeme (.symbol (x.layoutSymbol f.kind)) p f.start f.stop false
  | none =>
    match a.machine.read s (readerOf a state) p with
    | .found l start stop => x.foundPart a s state p l start stop
    | .atEnd start => Part.ofLexeme (.symbol 0) p start start false
    | .stuck .. => x.recoverAt a s state p

end Lexicon
end StorefrontSurvey.Script
