import StorefrontSurvey.Json.Raw
/-!
Reading JSON text. Besides the numbers of the standard, those that are not finite are read by their
names. A fault is reported at the place where the text stops being JSON.
-/
namespace StorefrontSurvey.Json

open Text (Point Wide)

inductive FaultKind where
  | byteOrderMark
  | valueWanted
  | extraData
  | nameWanted
  | colonWanted
  | commaWanted
  | unterminatedString
  | controlCharacter
  | badEscape
  | badCodePoint
  deriving DecidableEq, Repr

def FaultKind.message : FaultKind → String
  | .byteOrderMark => "Unexpected UTF-8 BOM (decode using utf-8-sig)"
  | .valueWanted => "Expecting value"
  | .extraData => "Extra data"
  | .nameWanted => "Expecting property name enclosed in double quotes"
  | .colonWanted => "Expecting ':' delimiter"
  | .commaWanted => "Expecting ',' delimiter"
  | .unterminatedString => "Unterminated string starting at"
  | .controlCharacter => "Invalid control character at"
  | .badEscape => "Invalid \\escape"
  | .badCodePoint => "Invalid \\uXXXX escape"

inductive ReadFault where
  | at (kind : FaultKind) (position : Nat)
  /-- A whole number with more digits than are read. -/
  | tooManyDigits (count : Nat)
  /-- Lists and objects within more others than are read. -/
  | tooDeep (word : String)
  deriving DecidableEq, Repr

/-- The most digits that a whole number may have. -/
def mostDigits : Nat := 4300

/-- The most levels of lists and objects within each other. -/
def mostLevels : Nat := 988

/-- The line and the column of a position, counted from one. Lines end with line feeds. -/
def placeOf (text : List Char) (position : Nat) : Nat × Nat :=
  let before := text.take position
  (before.count '\n' + 1, (before.reverse.takeWhile (· ≠ '\n')).length + 1)

def ReadFault.message (text : List Char) : ReadFault → String
  | .at kind position =>
    let (line, column) := placeOf text position
    kind.message ++ ": line " ++ toString line ++ " column " ++ toString column ++ " (char " ++
      toString position ++ ")"
  | .tooManyDigits count =>
    "Exceeds the limit (" ++ toString mostDigits ++
      " digits) for integer string conversion: value has " ++ toString count ++
      " digits; use sys.set_int_max_str_digits() to increase the limit"
  | .tooDeep word =>
    "maximum recursion depth exceeded while decoding a JSON " ++ word ++ " from a unicode string"

/-- Whether a text with a fault like this is not read in any other way either. -/
def ReadFault.isFinal : ReadFault → Bool
  | .tooDeep _ => true
  | _ => false

/-- What is left of a text, and where that starts. -/
structure Cursor where
  position : Nat
  text : List Char

abbrev Read (α : Type) := Except ReadFault (α × Cursor)

namespace Cursor

def move (c : Cursor) (n : Nat) : Cursor := ⟨c.position + n, c.text.drop n⟩

def isBlank (c : Char) : Bool := c = ' ' || c = '\t' || c = '\n' || c = '\r'

def skipBlank (c : Cursor) : Cursor := c.move (c.text.takeWhile isBlank).length

def head? (c : Cursor) : Option Char := c.text.head?

def fault {α : Type} (c : Cursor) (kind : FaultKind) : Except ReadFault α :=
  .error (.at kind c.position)

end Cursor

/-! ### Strings -/

def hexDigit? (c : Char) : Option Nat :=
  if c.isDigit then some (c.toNat - '0'.toNat)
  else if 'a' ≤ c ∧ c ≤ 'f' then some (c.toNat - 'a'.toNat + 10)
  else if 'A' ≤ c ∧ c ≤ 'F' then some (c.toNat - 'A'.toNat + 10)
  else none

def fourHex? : List Char → Option Nat
  | a :: b :: c :: d :: _ => do
    let a ← hexDigit? a
    let b ← hexDigit? b
    let c ← hexDigit? c
    let d ← hexDigit? d
    return ((a * 16 + b) * 16 + c) * 16 + d
  | _ => none

/-- The escape that starts at a cursor, whose text starts with a backslash and `u`: what it stands
for, and the cursor after it. The last character of the whole text is never part of such an
escape. -/
def readCodePoint (c : Cursor) : Read Point :=
  let digits := c.move 2
  let wrong : Except ReadFault (Point × Cursor) := .error (.at .badCodePoint (c.position + 1))
  if digits.text.length ≤ 4 then wrong
  else match fourHex? digits.text with
    | none => wrong
    | some code =>
      let after := digits.move 4
      if Text.isHigh code then
        match after.text with
        | '\\' :: 'u' :: rest =>
          if after.text.length ≤ 6 then .ok (.ofNumber code, after)
          else match fourHex? rest with
            | none => .error (.at .badCodePoint (after.position + 1))
            | some low =>
              if Text.isLow low then .ok (.char (Text.ofPair code low), after.move 6)
              else .ok (.ofNumber code, after)
        | _ => .ok (.ofNumber code, after)
      else .ok (.ofNumber code, after)

def plainEscapes : List (Char × Char) :=
  [('"', '"'), ('\\', '\\'), ('/', '/'), ('b', '\x08'), ('f', '\x0c'), ('n', '\n'), ('r', '\r'),
    ('t', '\t')]

/-- The rest of a string after its opening quote, which stands at `start`. `read` holds the text so
far, its end first. -/
def readString (start : Nat) : Nat → Wide → Cursor → Read Wide
  | 0, _, _ => .error (.at .unterminatedString start)
  | fuel + 1, read, c =>
    match c.text with
    | [] => .error (.at .unterminatedString start)
    | '"' :: _ => .ok (read.reverse, c.move 1)
    | ['\\'] => .error (.at .unterminatedString start)
    | '\\' :: 'u' :: _ =>
      match readCodePoint c with
      | .error fault => .error fault
      | .ok (value, after) => readString start fuel (value :: read) after
    | '\\' :: e :: _ =>
      match plainEscapes.lookup e with
      | some value => readString start fuel (.char value :: read) (c.move 2)
      | none => c.fault .badEscape
    | x :: _ =>
      if x.toNat ≤ 0x1F then c.fault .controlCharacter
      else readString start fuel (.char x :: read) (c.move 1)

/-! ### Numbers -/

def digitsOf (text : List Char) : List Char := text.takeWhile Char.isDigit

/-- The whole part of a number without its sign: a zero alone, or digits. -/
def wholePart (text : List Char) : List Char :=
  match text with
  | '0' :: _ => ['0']
  | _ => digitsOf text

/-- A point with the digits after it, of which there must be one. -/
def fractionPart (text : List Char) : List Char :=
  match text with
  | '.' :: rest => if (digitsOf rest).isEmpty then [] else '.' :: digitsOf rest
  | _ => []

/-- An exponent mark with the digits after it, of which there must be one. -/
def exponentPart (text : List Char) : List Char :=
  match text with
  | mark :: rest =>
    if mark = 'e' ∨ mark = 'E' then
      let sign := match rest with
        | s :: _ => if s = '+' ∨ s = '-' then [s] else []
        | [] => []
      let digits := digitsOf (rest.drop sign.length)
      if digits.isEmpty then [] else mark :: sign ++ digits
    else []
  | [] => []

def natOf (digits : List Char) : Nat :=
  digits.foldl (fun n c => n * 10 + (c.toNat - '0'.toNat)) 0

def readNumber (c : Cursor) : Read Raw :=
  let sign := match c.text with
    | '-' :: _ => ['-']
    | _ => []
  let whole := wholePart (c.text.drop sign.length)
  if whole.isEmpty then c.fault .valueWanted
  else
    let start := sign ++ whole
    let fraction := fractionPart (c.text.drop start.length)
    let start := start ++ fraction
    let exponent := exponentPart (c.text.drop start.length)
    let written := start ++ exponent
    let after := c.move written.length
    if fraction.isEmpty && exponent.isEmpty then
      if mostDigits < whole.length then .error (.tooManyDigits whole.length)
      else
        let n := Int.ofNat (natOf whole)
        .ok (.int (if sign.isEmpty then n else -n), after)
    else .ok (.decimal (String.ofList written), after)

/-! ### Values -/

def words : List (String × Raw) :=
  [("null", .null), ("true", .bool true), ("false", .bool false), ("NaN", .decimal "NaN"),
    ("Infinity", .decimal "Infinity"), ("-Infinity", .decimal "-Infinity")]

def readScalar (c : Cursor) : Read Raw :=
  match words.find? fun w => w.1.toList.isPrefixOf c.text with
  | some (word, value) => .ok (value, c.move word.length)
  | none => readNumber c

mutual

/-- A value within which some more levels may open. -/
def readValue : Nat → Nat → Cursor → Read Raw
  | 0, _, c => c.fault .valueWanted
  | fuel + 1, levels, c =>
    match c.text with
    | '"' :: _ =>
      (readString c.position (c.text.length) [] (c.move 1)).map fun (s, c) => (.str s, c)
    | '[' :: _ =>
      let inside := (c.move 1).skipBlank
      if levels = 0 then .error (.tooDeep "array")
      else if inside.head? = some ']' then .ok (.arr [], inside.move 1)
      else match readItems fuel (levels - 1) inside with
        | .error fault => .error fault
        | .ok (items, c) => .ok (.arr items, c)
    | '\x7b' :: _ =>
      let inside := (c.move 1).skipBlank
      if levels = 0 then .error (.tooDeep "object")
      else if inside.head? = some '\x7d' then .ok (.obj [], inside.move 1)
      else match readMembers fuel (levels - 1) [] inside with
        | .error fault => .error fault
        | .ok (members, c) => .ok (.obj members, c)
    | _ => readScalar c

/-- The items of a list, of which one has to stand here. -/
def readItems : Nat → Nat → Cursor → Read (List Raw)
  | 0, _, c => c.fault .valueWanted
  | fuel + 1, levels, c =>
    match readValue fuel levels c with
    | .error fault => .error fault
    | .ok (item, c) =>
      let c := c.skipBlank
      match c.head? with
      | some ']' => .ok ([item], c.move 1)
      | some ',' => 
        (readItems fuel levels (c.move 1).skipBlank).map fun (items, c) => (item :: items, c)
      | _ => c.fault .commaWanted

/-- The members of an object, of which one has to stand here, after those that were read. -/
def readMembers : Nat → Nat → List Raw.Member → Cursor → Read (List Raw.Member)
  | 0, _, _, c => c.fault .nameWanted
  | fuel + 1, levels, read, c =>
    match c.text with
    | '"' :: _ =>
      match readString c.position c.text.length [] (c.move 1) with
      | .error fault => .error fault
      | .ok (name, c) =>
        let c := c.skipBlank
        if c.head? ≠ some ':' then c.fault .colonWanted
        else match readValue fuel levels (c.move 1).skipBlank with
          | .error fault => .error fault
          | .ok (value, c) =>
            let c := c.skipBlank
            let read := Raw.setMember read name value
            match c.head? with
            | some '\x7d' => .ok (read, c.move 1)
            | some ',' => readMembers fuel levels read (c.move 1).skipBlank
            | _ => c.fault .commaWanted
    | _ => c.fault .nameWanted

end

def parse (text : List Char) : Except ReadFault Raw :=
  if text.head? = some '\uFEFF' then .error (.at .byteOrderMark 0)
  else
    match readValue (2 * text.length + 2) mostLevels (Cursor.skipBlank ⟨0, text⟩) with
    | .error fault => .error fault
    | .ok (value, c) =>
      let c := c.skipBlank
      if c.text.isEmpty then .ok value else c.fault .extraData

end StorefrontSurvey.Json
