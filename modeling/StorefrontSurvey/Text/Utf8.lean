/-!
Text as bytes. Characters take one to four bytes; a sequence of bytes that is no character's is
reported with the bytes that were right so far.
-/
namespace StorefrontSurvey.Text

inductive Utf8Cause where
  | badStart
  | badContinuation
  | endOfData
  deriving DecidableEq, Repr

/-- Bytes that are no text: where they start, how many they are and the first of them. -/
structure Utf8Fault where
  cause : Utf8Cause
  position : Nat
  count : Nat
  first : UInt8
  deriving DecidableEq, Repr

def Utf8Cause.message : Utf8Cause → String
  | .badStart => "invalid start byte"
  | .badContinuation => "invalid continuation byte"
  | .endOfData => "unexpected end of data"

def hexByte (b : UInt8) : String :=
  String.ofList [(b.toNat / 16).digitChar, (b.toNat % 16).digitChar]

def Utf8Fault.message (f : Utf8Fault) : String :=
  let place :=
    if f.count = 1 then
      "byte 0x" ++ hexByte f.first ++ " in position " ++ toString f.position
    else
      "bytes in position " ++ toString f.position ++ "-" ++ toString (f.position + f.count - 1)
  "'utf-8' codec can't decode " ++ place ++ ": " ++ f.cause.message

def isContinuation (b : UInt8) : Bool := 0x80 ≤ b && b ≤ 0xBF

/-- Whether a byte may follow the first byte of a longer character. -/
def isSecond (first second : UInt8) : Bool :=
  if first = 0xE0 then 0xA0 ≤ second && second ≤ 0xBF
  else if first = 0xED then 0x80 ≤ second && second ≤ 0x9F
  else if first = 0xF0 then 0x90 ≤ second && second ≤ 0xBF
  else if first = 0xF4 then 0x80 ≤ second && second ≤ 0x8F
  else isContinuation second

/-- How many bytes follow the first byte of a character. -/
def following? (first : UInt8) : Option Nat :=
  if first ≤ 0x7F then some 0
  else if 0xC2 ≤ first && first ≤ 0xDF then some 1
  else if 0xE0 ≤ first && first ≤ 0xEF then some 2
  else if 0xF0 ≤ first && first ≤ 0xF4 then some 3
  else none

/-- How many of the bytes after the first one of a character are right. -/
def rightCount (first : UInt8) (count : Nat) (rest : List UInt8) : Nat :=
  match rest.take count with
  | [] => 0
  | second :: more =>
    if isSecond first second then 1 + (more.takeWhile isContinuation).length else 0

/-- The number that the bytes of a character write. -/
def codePoint (first : UInt8) (rest : List UInt8) : Nat :=
  let lead := match rest.length with
    | 0 => first.toNat
    | 1 => first.toNat % 0x20
    | 2 => first.toNat % 0x10
    | _ => first.toNat % 0x08
  rest.foldl (fun n b => n * 0x40 + b.toNat % 0x40) lead

/-- The characters of bytes from a position on; as many as the first argument allows. -/
def decodeFrom : Nat → Nat → List UInt8 → Except Utf8Fault (List Char)
  | _, _, [] => .ok []
  | 0, _, _ => .ok []
  | fuel + 1, position, first :: rest =>
    match following? first with
    | none => .error ⟨.badStart, position, 1, first⟩
    | some count =>
      let right := rightCount first count rest
      if right = count then
        (decodeFrom fuel (position + 1 + count) (rest.drop count)).map fun chars =>
          Char.ofNat (codePoint first (rest.take count)) :: chars
      else if (rest.take count).length = right then .error ⟨.endOfData, position, 1 + right, first⟩
      else .error ⟨.badContinuation, position, 1 + right, first⟩

def decode (bytes : List UInt8) : Except Utf8Fault (List Char) :=
  decodeFrom bytes.length 0 bytes

/-- Text whose lines all end with line feeds: carriage returns, alone or before a line feed, are
taken for line ends. -/
def plainLines : List Char → List Char
  | [] => []
  | '\r' :: '\n' :: rest => '\n' :: plainLines rest
  | c :: rest => (if c = '\r' then '\n' else c) :: plainLines rest

def ofBytes (bytes : List UInt8) : Except Utf8Fault (List Char) := (decode bytes).map plainLines

end StorefrontSurvey.Text
