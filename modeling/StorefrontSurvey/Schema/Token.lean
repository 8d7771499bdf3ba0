import StorefrontSurvey.Text.Wide
/-!
Tokens of the GraphQL schema language, and what can be wrong with a document's syntax.
-/
namespace StorefrontSurvey.Schema

open Text (Point Wide)

inductive Punct where
  | bang
  | dollar
  | amp
  | parenL
  | parenR
  | spread
  | colon
  | equals
  | atSign
  | bracketL
  | bracketR
  | braceL
  | pipe
  | braceR
  deriving DecidableEq, Repr

def Punct.text : Punct → String
  | .bang => "!"
  | .dollar => "$"
  | .amp => "&"
  | .parenL => "("
  | .parenR => ")"
  | .spread => "..."
  | .colon => ":"
  | .equals => "="
  | .atSign => "@"
  | .bracketL => "["
  | .bracketR => "]"
  | .braceL => "\x7b"
  | .pipe => "|"
  | .braceR => "\x7d"

/-- The punctuator that a character is by itself. -/
def Punct.ofChar? (c : Char) : Option Punct :=
  [Punct.bang, .dollar, .amp, .parenL, .parenR, .colon, .equals, .atSign, .bracketL, .bracketR,
    .braceL, .pipe, .braceR].find? fun p => p.text == String.singleton c

inductive Lexeme where
  | eof
  | punct (p : Punct)
  | name (text : String)
  | int (text : String)
  | float (text : String)
  /-- A string with its escapes resolved. -/
  | string (value : String)
  /-- A string between triple quotes, without its common indentation. -/
  | block (value : String)
  deriving DecidableEq, Repr, Inhabited

def quoted (text : String) : String := "'" ++ text ++ "'"

def Lexeme.describe : Lexeme → String
  | .eof => "<EOF>"
  | .punct p => quoted p.text
  | .name text => "Name " ++ quoted text
  | .int text => "Int " ++ quoted text
  | .float text => "Float " ++ quoted text
  | .string value => "String " ++ quoted value
  | .block value => "BlockString " ++ quoted value

structure Token where
  lexeme : Lexeme
  start : Nat
  deriving DecidableEq, Repr, Inhabited

inductive Cause where
  | unexpected (found : Lexeme)
  | expected (wanted : String) (found : Lexeme)
  | stray (found : Point)
  | singleQuote
  | digitAfterZero (found : Option Point)
  | digitWanted (found : Option Point)
  | unterminatedString
  | brokenString (found : Point)
  /-- An escape that stands for nothing, by how much of the text it takes. -/
  | badEscape (size : Nat)
  | badCodePoint (size : Nat)
  | variableInConstant (name : String)
  | reservedValue (found : Lexeme)
  | describedShorthand
  | describedOther
  | nestedTooDeeply
  deriving DecidableEq, Repr

def hexDigits (n : Nat) : List Char := (Nat.toDigits 16 n).map Char.toUpper

def describeNumber (n : Nat) : String :=
  let digits := hexDigits n
  "U+" ++ String.ofList (List.replicate (4 - digits.length) '0' ++ digits)

/-- What stands in a text as it is shown in messages; the end of the text shows as its name. -/
def describePoint : Option Point → String
  | none => "<EOF>"
  | some (.half place) => describeNumber (Point.half place).number
  | some (.char c) =>
    if 0x20 ≤ c.toNat ∧ c.toNat ≤ 0x7E then quoted (String.singleton c)
    else describeNumber c.toNat

def strayMessage : Point → String
  | .half place => "Invalid character: " ++ describePoint (some (.half place)) ++ "."
  | .char c => "Unexpected character: " ++ describePoint (some (.char c)) ++ "."

/-- Says what is wrong where a text goes on like this. -/
def Cause.message (rest : Wide) : Cause → Wide
  | .unexpected found => .of ("Unexpected " ++ found.describe ++ ".")
  | .expected wanted found => .of ("Expected " ++ wanted ++ ", found " ++ found.describe ++ ".")
  | .stray found => .of (strayMessage found)
  | .singleQuote =>
    .of "Unexpected single quote character ('), did you mean to use a double quote (\")?"
  | .digitAfterZero found =>
    .of ("Invalid number, unexpected digit after 0: " ++ describePoint found ++ ".")
  | .digitWanted found =>
    .of ("Invalid number, expected digit but got: " ++ describePoint found ++ ".")
  | .unterminatedString => .of "Unterminated string."
  | .brokenString found =>
    .of ("Invalid character within String: " ++ describePoint (some found) ++ ".")
  | .badEscape size =>
    Wide.of "Invalid character escape sequence: '" ++ rest.take size ++ Wide.of "'."
  | .badCodePoint size =>
    Wide.of "Invalid Unicode escape sequence: '" ++ rest.take size ++ Wide.of "'."
  | .variableInConstant name =>
    .of ("Unexpected variable '$" ++ name ++ "' in constant value.")
  | .reservedValue found =>
    .of (found.describe ++ " is reserved and cannot be used for an enum value.")
  | .describedShorthand =>
    .of "Unexpected description, descriptions are not supported on shorthand queries."
  | .describedOther =>
    .of "Unexpected description, only GraphQL definitions support descriptions."
  | .nestedTooDeeply => .of "Document is nested too deeply. Parsing aborted."

structure SyntaxFault where
  cause : Cause
  position : Nat
  deriving DecidableEq, Repr

/-- The tokens of a text, up to its end or to the first place where no token starts. -/
inductive Tokens where
  | eof (position : Nat)
  | broken (fault : SyntaxFault)
  | more (token : Token) (rest : Tokens)
  deriving Repr, Inhabited

namespace Tokens

def length : Tokens → Nat
  | eof _ => 0
  | broken _ => 0
  | more _ rest => rest.length + 1

/-- The token at the front; the end stays in front for ever. -/
def head : Tokens → Token
  | eof position => ⟨.eof, position⟩
  | broken _ => ⟨.eof, 0⟩
  | more token _ => token

end Tokens

end StorefrontSurvey.Schema
