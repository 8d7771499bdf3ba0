import StorefrontSurvey.Script.Source
import StorefrontSurvey.Script.Chars
import StorefrontSurvey.Script.Rule
/-!
Lexemes that depend on layout: the semicolon that a line end stands for, runs of template text, the
question mark of a conditional, markup comments and markup text.
-/
namespace StorefrontSurvey.Script.Layout

open Chars

/-- What may stand at a place, as far as layout asks. -/
structure Expected where
  layout : LayoutClass → Bool
  /-- The operator `||` may stand there, so the text before is an expression. -/
  operator : Bool
  escape : Bool
  pattern : Bool

structure Found where
  kind : LayoutClass
  start : Nat
  stop : Nat

/-- Template text up to a quote, an escape or a substitution; the flag says whether there is any. -/
def templateRun? (s : Source) : Nat → Nat → Bool → Option Nat
  | 0, _, _ => none
  | fuel + 1, p, any =>
    match s.look p with
    | '\x60' => if any then some p else none
    | '\x00' => none
    | '\\' => if any then some p else none
    | '$' =>
      if s.look (p + 1) = '\x7b' then if any then some p else none
      else templateRun? s fuel (p + 1) true
    | _ => templateRun? s fuel (p + 1) true

/-- After the opening of a block comment: the position after its end mark, or the end of the text,
and whether the end mark was there. -/
def blockComment (s : Source) (p : Nat) : Nat × Bool :=
  if p < s.chars.size then
    if s.look p = '\x00' then (p, false)
    else if s.look p = '*' && s.look (p + 1) = '/' then (p + 2, true)
    else blockComment s (p + 1)
  else (p, false)
termination_by s.chars.size - p

/-- Skips blanks and comments. Gives the position reached, whether a comment was passed, and whether
the place reached is not a lone slash. -/
def blanksAndComments (s : Source) : Nat → Nat → Bool → Nat × Bool × Bool
  | 0, p, seen => (p, seen, true)
  | fuel + 1, p, seen =>
    let q := s.skipWhile isBreakable p
    if s.look q = '/' then
      if s.look (q + 1) = '/' then
        blanksAndComments s fuel (s.skipWhile (fun c => c ≠ '\n' && c ≠ '\x00') (q + 2)) true
      else if s.look (q + 1) = '*' then
        let (r, closed) := blockComment s (q + 2)
        blanksAndComments s fuel r (seen || closed)
      else (q + 1, seen, false)
    else (q, seen, true)

/-- Whether a line that starts with these characters begins a new statement. The last argument is
the position where reading stopped. -/
def startsStatement (e : Expected) (s : Source) (p : Nat) : Bool :=
  match s.look p with
  | '\x60' | ',' | '.' | ';' | '*' | '%' | '>' | '<' | '=' | '?' | '^' | '|' | '&' | '/' | ':' =>
    false
  | '\x7b' => !e.layout .signatureSemicolon
  | '(' | '[' => !e.operator
  | '+' => s.look (p + 1) = '+'
  | '-' => s.look (p + 1) = '-'
  | '!' => s.look (p + 1) ≠ '='
  | 'i' =>
    if s.look (p + 1) ≠ 'n' then true
    else if !isLetter (s.look (p + 2)) then false
    else if !s.standsAt "stanceof".toList (p + 2) then true
    else isLetter (s.look (p + 10))
  | _ => true

/-- Whether a semicolon may be left out at a position, with what was seen on the way: the position
where reading stopped and whether a comment was passed. -/
def semicolon (e : Expected) (s : Source) (p : Nat) : Bool × Nat × Bool :=
  let q := s.skipWhile (fun c => isBreakable c && c ≠ '\n' && c ≠ '\x00') p
  match s.look q with
  | '\x00' => (true, q, false)
  | '\x7d' =>
    let r := s.skipWhile isBreakable (q + 1)
    (if s.look r = ':' then e.operator else true, r, false)
  | '\n' =>
    let (r, commented, open_) := blanksAndComments s (s.size + 1) (q + 1) false
    if !open_ then (false, r, commented)
    else (startsStatement e s r, r, commented)
  | _ => (false, q, false)

/-- A question mark that opens a conditional: neither of the operators that start with one nor the
mark of an optional part. -/
def questionMark? (s : Source) (p : Nat) : Option Found :=
  let q := s.skipWhile isBreakable p
  if s.look q = '?' && s.look (q + 1) ≠ '?' && s.look (q + 1) ≠ '.' then
    let r := s.skipWhile isBreakable (q + 1)
    let found : Found := ⟨.questionMark, q, q + 1⟩
    match s.look r with
    | ':' | ')' | ',' => none
    | '.' => if (s.look (r + 1)).isDigit then some found else none
    | _ => some found
  else none

/-- A comment in the form of markup comments, up to the end of its line. -/
def markupComment? (s : Source) (start p : Nat) : Option Found :=
  let q := s.skipWhile (fun c => isBreakable c || isLineOrParagraphMark c) p
  let start := if q > p then q else start
  let opened := if s.look q = '<' then s.standsAt "<!--".toList q
    else s.standsAt "-->".toList q
  if opened then
    let r := s.skipWhile (fun c => c ≠ '\x00' && c ≠ '\n' && !isLineOrParagraphMark c) q
    some ⟨.markupComment, start, r⟩
  else none

/-- Text between tags. It holds more than blanks around line feeds if the flag comes out true. -/
def markupText (s : Source) : Nat → Nat → Bool → Bool → Nat × Bool
  | 0, p, _, seen => (p, seen)
  | fuel + 1, p, atLine, seen =>
    match s.look p with
    | '\x00' | '<' | '>' | '\x7b' | '\x7d' | '&' => (p, seen)
    | '\n' => markupText s fuel (p + 1) true seen
    | c =>
      let atLine := atLine && isBreakable c
      markupText s fuel (p + 1) atLine (seen || !atLine)

/-- The layout lexeme at a position, if one is expected and there. -/
def scan? (e : Expected) (s : Source) (p : Nat) : Option Found :=
  if e.layout .templateRun then
    if e.layout .semicolon then none
    else (templateRun? s (s.size + 1) p false).map fun q => ⟨.templateRun, p, q⟩
  else
    let (text, seen) := if e.layout .markupText then markupText s (s.size + 1) p false false
      else (p, false)
    if seen then some ⟨.markupText, p, text⟩
    else if e.layout .semicolon || e.layout .signatureSemicolon then
      let (found, stop, commented) := semicolon e s text
      if found then some ⟨.semicolon, text, text⟩
      else if !commented && e.layout .questionMark && s.look stop = '?' then questionMark? s stop
      else none
    else if e.layout .questionMark then questionMark? s text
    else if e.layout .markupComment && !e.operator && !e.escape && !e.pattern then
      markupComment? s p text
    else none

end StorefrontSurvey.Script.Layout
