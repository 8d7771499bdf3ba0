import StorefrontSurvey.Routes.Route
import StorefrontSurvey.Text.Blank
import StorefrontSurvey.Text.WordChar
/-!
Routes declared by calls in plain text: the word `route`, an opening parenthesis, two quoted texts
with a comma between them, and a comma or a closing parenthesis. Between these may stand gaps:
blanks and block comments. A block comment ends at the first end mark that lets the whole call
match.
-/
namespace StorefrontSurvey.Routes

open Text (isBlank isWordChar)

/-- A position in a text: the characters from there on. -/
abbrev Rest := List Char

def isQuote (c : Char) : Bool := c = '\'' || c = '"' || c = '\x60'

/-- What follows each end mark of a comment, the nearest first. -/
def afterEndMarks : Rest → List Rest
  | '*' :: '/' :: rest => rest :: afterEndMarks ('/' :: rest)
  | _ :: rest => afterEndMarks rest
  | [] => []

/-- Tries one position after another. What an attempt learns of lengths that have failed is known to
the next one. -/
def firstFound {α : Type} (attempt : Rest → List Nat → Option α × List Nat) :
    List Rest → List Nat → Option α × List Nat
  | [], tried => (none, tried)
  | r :: rs, tried => match attempt r tried with
    | (some a, tried) => (some a, tried)
    | (none, tried) => firstFound attempt rs tried

/-- Goes on after the blank or the comment that a gap starts with. -/
def pastFirst {α : Type} (onward : Rest → List Nat → Option α × List Nat) :
    Rest → List Nat → Option α × List Nat
  | '/' :: '*' :: inside, tried => firstFound onward (afterEndMarks inside) tried
  | c :: more, tried => if isBlank c then onward more tried else (none, tried)
  | [], tried => (none, tried)

/-- Tries every way through a gap, longer ways first. `tried` holds the lengths of the rests that
have failed already. -/
def throughGap {α : Type} (found : Rest → Option α) :
    Nat → Rest → List Nat → Option α × List Nat
  | 0, _, tried => (none, tried)
  | fuel + 1, rest, tried =>
    if tried.contains rest.length then (none, tried)
    else match pastFirst (throughGap found fuel) rest tried with
      | (some a, tried) => (some a, tried)
      | (none, tried) => match found rest with
        | some a => (some a, tried)
        | none => (none, rest.length :: tried)

/-- Goes on after a gap, whatever way through it works. -/
def gap {α : Type} (found : Rest → Option α) (rest : Rest) : Option α :=
  (throughGap found (rest.length + 1) rest []).1

/-- Goes on after a gap and one character. -/
def gapThen {α : Type} (isNext : Char → Bool) (found : Rest → Option α) (rest : Rest) : Option α :=
  gap (fun r => match r with
    | c :: more => if isNext c then found more else none
    | [] => none) rest

/-- A text between two quotes of any kind, which holds no quote and is not empty. -/
def quoted {α : Type} (found : String → Rest → Option α) (rest : Rest) : Option α :=
  gapThen isQuote (fun r =>
    let inside := r.takeWhile (!isQuote ·)
    match r.drop inside.length with
    | _ :: more => if inside.isEmpty then none else found (String.ofList inside) more
    | [] => none) rest

/-- A call of `route` after its name: its two texts and what follows the call. -/
def callAfterName? (rest : Rest) : Option (Route × Rest) :=
  gapThen (· = '(') (fun r =>
    quoted (fun pattern r =>
      gapThen (· = ',') (fun r =>
        quoted (fun file r =>
          gapThen (fun c => c = ',' || c = ')') (fun r => some (Route.of pattern file, r)) r) r) r)
      r) rest

/-- The routes from a position on. `afterWord` says whether a word character stands before it. -/
def routesFrom : Nat → Bool → Rest → List Route
  | 0, _, _ => []
  | fuel + 1, afterWord, rest =>
    match rest with
    | [] => []
    | c :: more =>
      let here := if !afterWord && "route".toList.isPrefixOf rest then
          callAfterName? (rest.drop 5)
        else none
      match here with
      | some (route, after) => route :: routesFrom fuel false after
      | none => routesFrom fuel (isWordChar c) more

def textRoutes (source : String) : List Route :=
  let rest := source.toList
  routesFrom (rest.length + 1) false rest

end StorefrontSurvey.Routes
