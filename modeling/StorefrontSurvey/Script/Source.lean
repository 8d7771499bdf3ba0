/-!
A script's text as the parser sees it: characters by index, with the byte offset of every character
and the number of line feeds before it. Positions in this library are character indexes; bytes and
rows are read from the two tables.
-/
namespace StorefrontSurvey.Script

/-- The text of a script with the tables that turn a character index into bytes and rows. -/
structure Source where
  chars : Array Char
  /-- For each index up to and including the end, the number of bytes before it. -/
  offsets : Array Nat
  /-- For each index up to and including the end, the number of line feeds before it. -/
  rows : Array Nat
  /-- The index at which each row starts. -/
  lineStarts : Array Nat

namespace Source

/-- The running sums of a weight over a text, starting from zero. -/
def runningSums (weight : Char → Nat) (chars : Array Char) : Array Nat :=
  chars.foldl (fun sums c => sums.push (sums.back?.getD 0 + weight c)) #[0]

def ofString (text : String) : Source :=
  let chars := text.toList.toArray
  { chars
    offsets := runningSums Char.utf8Size chars
    rows := runningSums (fun c => if c = '\n' then 1 else 0) chars
    lineStarts := (chars.toList.zipIdx.filterMap fun e =>
      if e.1 = '\n' then some (e.2 + 1) else none).toArray.insertIdxIfInBounds 0 0 }

def size (s : Source) : Nat := s.chars.size

def atEnd (s : Source) (p : Nat) : Bool := s.chars.size ≤ p

/-- The character at a position; none at the end of the text. -/
def peek? (s : Source) (p : Nat) : Option Char := s.chars[p]?

def byteAt (s : Source) (p : Nat) : Nat := s.offsets.getD p (s.offsets.back?.getD 0)

def rowAt (s : Source) (p : Nat) : Nat := s.rows.getD p (s.rows.back?.getD 0)

/-- The number of bytes between the start of a position's row and the position. -/
def columnAt (s : Source) (p : Nat) : Nat :=
  s.byteAt p - s.byteAt (s.lineStarts.getD (s.rowAt p) 0)

/-- The character at a position; a text behaves as if NUL characters followed it. -/
def look (s : Source) (p : Nat) : Char := s.chars.getD p '\x00'

/-- The first position from `p` on whose character fails a test. -/
def skipWhile (s : Source) (f : Char → Bool) (p : Nat) : Nat :=
  if h : p < s.chars.size then
    if f s.chars[p] then skipWhile s f (p + 1) else p
  else p
termination_by s.chars.size - p

def standsAt (s : Source) (text : List Char) (p : Nat) : Bool :=
  match text with
  | [] => true
  | c :: cs => s.peek? p == some c && standsAt s cs (p + 1)

def slice (s : Source) (start stop : Nat) : String :=
  String.ofList (s.chars.extract start stop).toList

end Source
end StorefrontSurvey.Script
