import StorefrontSurvey.Text.Printable
import StorefrontSurvey.Text.Wide
/-!
Text in quotes, as it is shown in messages. Single quotes are taken unless the text holds some and
no double ones. The quote taken, backslashes and what cannot be printed are escaped.
-/
namespace StorefrontSurvey.Text

/-- The lowest digits of a number to base sixteen. -/
def hex : Nat → Nat → List Char
  | 0, _ => []
  | width + 1, n => hex width (n / 16) ++ [(n % 16).digitChar]

def quoteFor (text : List Char) : Char :=
  if text.contains '\'' && !text.contains '"' then '"' else '\''

def escapeNumber (n : Nat) : List Char :=
  if n < 0x100 then '\\' :: 'x' :: hex 2 n
  else if n < 0x10000 then '\\' :: 'u' :: hex 4 n
  else '\\' :: 'U' :: hex 8 n

def escapeChar (quote c : Char) : List Char :=
  if c = quote ∨ c = '\\' then ['\\', c]
  else if c = '\n' then ['\\', 'n']
  else if c = '\r' then ['\\', 'r']
  else if c = '\t' then ['\\', 't']
  else if isPrintable c then [c]
  else escapeNumber c.toNat

def escapePoint (quote : Char) : Point → List Char
  | .char c => escapeChar quote c
  | .half place => escapeNumber (Point.half place).number

def Wide.quoted (text : Wide) : String :=
  let quote := quoteFor text.chars
  String.ofList (quote :: text.flatMap (escapePoint quote) ++ [quote])

def quoted (text : String) : String := (Wide.of text).quoted

end StorefrontSurvey.Text
