import StorefrontSurvey.Schema.Token
/-!
From text to tokens. Blanks, commas, byte order marks and comments stand between tokens and are
none. Positions count characters. Where a half of a surrogate pair stands, no token goes on.
-/
namespace StorefrontSurvey.Schema

open Text (Point Wide)

def isBlank (c : Char) : Bool := c = ' ' || c = '\t' || c = ',' || c = '\uFEFF'

def isLineEnd (c : Char) : Bool := c = '\n' || c = '\r'

def isNameStart (c : Char) : Bool := c.isAlpha || c = '_'

def isNamePart (c : Char) : Bool := c.isAlphanum || c = '_'

/-- A lexeme, how many characters it takes, and the text after it. -/
structure Scanned where
  lexeme : Lexeme
  size : Nat
  rest : Wide

/-! ### Numbers -/

/-- The digits at the front, of which there must be one. -/
def scanDigits (position : Nat) (text : Wide) : Except SyntaxFault (List Char × Wide) :=
  match Wide.span Char.isDigit text with
  | ([], _) => .error ⟨.digitWanted text.head?, position⟩
  | found => .ok found

/-- The whole part of a number: a zero alone, or digits. -/
def scanWhole (position : Nat) (text : Wide) : Except SyntaxFault (List Char × Wide) :=
  match text with
  | .char '0' :: rest =>
    match Wide.span Char.isDigit rest with
    | ([], _) => .ok (['0'], rest)
    | _ => .error ⟨.digitAfterZero rest.head?, position + 1⟩
  | _ => scanDigits position text

def scanFraction (position : Nat) (text : Wide) : Except SyntaxFault (List Char × Wide) :=
  match text with
  | .char '.' :: rest =>
    (scanDigits (position + 1) rest).map fun (digits, rest) => ('.' :: digits, rest)
  | _ => .ok ([], text)

/-- The part of a number from its exponent mark on. -/
def scanExponent (position : Nat) (text : Wide) : Except SyntaxFault (List Char × Wide) :=
  match text with
  | .char mark :: rest =>
    if mark = 'e' ∨ mark = 'E' then
      match rest with
      | .char sign :: digits =>
        if sign = '+' ∨ sign = '-' then
          (scanDigits (position + 2) digits).map fun (ds, rest) => (mark :: sign :: ds, rest)
        else (scanDigits (position + 1) rest).map fun (ds, rest) => (mark :: ds, rest)
      | _ => (scanDigits (position + 1) rest).map fun (ds, rest) => (mark :: ds, rest)
    else .ok ([], text)
  | _ => .ok ([], text)

/-- A number; neither a point nor a name may follow it. -/
def scanNumber (position : Nat) (text : Wide) : Except SyntaxFault Scanned := do
  let (sign, text) := match text with
    | .char '-' :: rest => (['-'], rest)
    | _ => ([], text)
  let (whole, text) ← scanWhole (position + sign.length) text
  let read := sign ++ whole
  let (fraction, text) ← scanFraction (position + read.length) text
  let read := read ++ fraction
  let (exponent, text) ← scanExponent (position + read.length) text
  let read := read ++ exponent
  let written := String.ofList read
  let scanned : Scanned :=
    ⟨if fraction = [] ∧ exponent = [] then .int written else .float written, read.length, text⟩
  match text with
  | .char c :: _ =>
    if c = '.' ∨ isNameStart c then
      .error ⟨.digitWanted (some (.char c)), position + read.length⟩
    else .ok scanned
  | _ => .ok scanned

/-! ### Strings -/

def hexValue? (c : Char) : Option Nat :=
  if c.isDigit then some (c.toNat - '0'.toNat)
  else if 'a' ≤ c ∧ c ≤ 'f' then some (c.toNat - 'a'.toNat + 10)
  else if 'A' ≤ c ∧ c ≤ 'F' then some (c.toNat - 'A'.toNat + 10)
  else none

def hexNumber? (digits : Wide) : Option Nat :=
  digits.foldl (fun n? point => n?.bind fun n =>
    (point.char?.bind hexValue?).map (n * 16 + ·)) (some 0)

/-- The number that the first four characters write. -/
def fourHex? (text : Wide) : Option Nat :=
  if (text.take 4).length = 4 then hexNumber? (text.take 4) else none

/-- An escape of four digits, or two of them that are a surrogate pair. `text` starts with its
backslash. -/
def scanFixedEscape (position : Nat) (text : Wide) : Except SyntaxFault (Char × Nat) :=
  let refuse : Except SyntaxFault (Char × Nat) := .error ⟨.badCodePoint 6, position⟩
  match fourHex? (text.drop 2) with
  | none => refuse
  | some code =>
    if Text.isHigh code then
      if (text.drop 6).take 2 = Wide.of "\\u" then
        match fourHex? (text.drop 8) with
        | some low => if Text.isLow low then .ok (Text.ofPair code low, 12) else refuse
        | none => refuse
      else refuse
    else if Text.isLow code then refuse
    else .ok (Char.ofNat code, 6)

/-- The digits of an escape in braces, from a size on. The escape is refused at the first character
that is no digit; it takes at most `limit` characters. -/
def scanBracedDigits (limit : Nat) : Nat → Nat → Wide → Except Nat (Char × Nat)
  | size, _, [] => .error size
  | size, number, point :: rest =>
    if limit ≤ size then .error size
    else if point = .char '\x7d' then
      if size + 1 < 5 ∨ ¬ number.isValidChar then .error (size + 1)
      else .ok (Char.ofNat number, size + 1)
    else match point.char?.bind hexValue? with
      | some digit => scanBracedDigits limit (size + 1) (number * 16 + digit) rest
      | none => .error (size + 1)

/-- An escape in braces. `text` starts with its backslash. -/
def scanBracedEscape (position : Nat) (text : Wide) : Except SyntaxFault (Char × Nat) :=
  match scanBracedDigits (min 12 text.length) 3 0 (text.drop 3) with
  | .ok found => .ok found
  | .error size => .error ⟨.badCodePoint size, position⟩

def plainEscapes : List (Char × Char) :=
  [('"', '"'), ('/', '/'), ('\\', '\\'), ('b', '\x08'), ('f', '\x0c'), ('n', '\n'), ('r', '\r'),
    ('t', '\t')]

/-- The character that an escape stands for, and how many characters it takes. -/
def scanEscape (position : Nat) (text : Wide) : Except SyntaxFault (Char × Nat) :=
  match text.drop 1 with
  | .char 'u' :: rest =>
    if rest.head? = some (.char '\x7b') then scanBracedEscape position text
    else scanFixedEscape position text
  | .char c :: _ =>
    match plainEscapes.lookup c with
    | some value => .ok (value, 2)
    | none => .error ⟨.badEscape 2, position⟩
  | _ => .error ⟨.badEscape 2, position⟩

/-- The rest of a string after its opening quote. `read` holds its characters so far, the last one
first. -/
def scanString : Nat → Nat → Nat → List Char → Wide → Except SyntaxFault Scanned
  | 0, position, size, _, _ => .error ⟨.unterminatedString, position + size⟩
  | fuel + 1, position, size, read, text =>
    match text with
    | [] => .error ⟨.unterminatedString, position + size⟩
    | .half place :: _ => .error ⟨.brokenString (.half place), position + size⟩
    | .char c :: rest =>
      if c = '"' then .ok ⟨.string (String.ofList read.reverse), size + 1, rest⟩
      else if c = '\\' then
        match scanEscape (position + size) text with
        | .error fault => .error fault
        | .ok (value, width) =>
          scanString fuel position (size + width) (value :: read) (text.drop width)
      else if isLineEnd c then .error ⟨.unterminatedString, position + size⟩
      else scanString fuel position (size + 1) (c :: read) rest

/-! ### Strings between triple quotes -/

def isIndent (c : Char) : Bool := c = ' ' || c = '\t'

def isIndentOnly (line : List Char) : Bool := line.all isIndent

/-- The smallest indentation of the lines that hold more than indentation. -/
def commonIndent (lines : List (List Char)) : Option Nat :=
  ((lines.filter fun l => !isIndentOnly l).map fun l => (l.takeWhile isIndent).length).min?

/-- Lines without the indentation that all but the first have in common, and without blank lines at
either end. -/
def dedent (lines : List (List Char)) : List (List Char) :=
  let common := commonIndent (lines.drop 1)
  let cut := lines.take 1 ++ (lines.drop 1).map fun l => (common.map l.drop).getD []
  ((cut.dropWhile isIndentOnly).reverse.dropWhile isIndentOnly).reverse

def joinLines : List (List Char) → List Char
  | [] => []
  | [l] => l
  | l :: m :: more => l ++ '\n' :: joinLines (m :: more)

/-- The rest of such a string after its opening quotes: `line` holds the current line's characters,
the last one first, and `lines` the lines before, the last one first. -/
def scanBlock : Nat → Nat → Nat → List (List Char) → List Char → Wide →
    Except SyntaxFault Scanned
  | 0, position, size, _, _, _ => .error ⟨.unterminatedString, position + size⟩
  | fuel + 1, position, size, lines, line, text =>
    match text with
    | [] => .error ⟨.unterminatedString, position + size⟩
    | .half place :: _ => .error ⟨.brokenString (.half place), position + size⟩
    | .char '"' :: .char '"' :: .char '"' :: rest =>
      let value := joinLines (dedent (line.reverse :: lines).reverse)
      .ok ⟨.block (String.ofList value), size + 3, rest⟩
    | .char '\\' :: .char '"' :: .char '"' :: .char '"' :: rest =>
      scanBlock fuel position (size + 4) lines ('"' :: '"' :: '"' :: line) rest
    | .char '\r' :: .char '\n' :: rest =>
      scanBlock fuel position (size + 2) (line.reverse :: lines) [] rest
    | .char c :: rest =>
      if isLineEnd c then scanBlock fuel position (size + 1) (line.reverse :: lines) [] rest
      else scanBlock fuel position (size + 1) lines (c :: line) rest

/-! ### Tokens -/

def scanLexeme (position : Nat) (text : Wide) : Except SyntaxFault Scanned :=
  match text with
  | [] => .ok ⟨.eof, 0, []⟩
  | .half place :: _ => .error ⟨.stray (.half place), position⟩
  | .char '"' :: .char '"' :: .char '"' :: rest =>
    scanBlock (rest.length + 1) position 3 [] [] rest
  | .char '"' :: rest => scanString (rest.length + 1) position 1 [] rest
  | .char '.' :: .char '.' :: .char '.' :: rest => .ok ⟨.punct .spread, 3, rest⟩
  | .char c :: rest =>
    match Punct.ofChar? c with
    | some p => .ok ⟨.punct p, 1, rest⟩
    | none =>
      if c.isDigit ∨ c = '-' then scanNumber position text
      else if isNameStart c then
        let (name, rest) := Wide.span isNamePart text
        .ok ⟨.name (String.ofList name), name.length, rest⟩
      else if c = '\'' then .error ⟨.singleQuote, position⟩
      else .error ⟨.stray (.char c), position⟩

/-- The tokens of a text from a position on; as many as the first argument allows. -/
def scanTokens : Nat → Nat → Wide → Tokens
  | _, position, [] => .eof position
  | 0, position, _ => .eof position
  | _ + 1, position, .half place :: _ => .broken ⟨.stray (.half place), position⟩
  | fuel + 1, position, .char c :: rest =>
    if isBlank c ∨ isLineEnd c then scanTokens fuel (position + 1) rest
    else if c = '#' then
      let (comment, rest) := Wide.span (fun c => !isLineEnd c) rest
      scanTokens fuel (position + 1 + comment.length) rest
    else match scanLexeme position (.char c :: rest) with
      | .error fault => .broken fault
      | .ok scanned =>
        .more ⟨scanned.lexeme, position⟩ (scanTokens fuel (position + scanned.size) scanned.rest)

def tokensOf (text : Wide) : Tokens := scanTokens (text.length + 1) 0 text

end StorefrontSurvey.Schema
