import StorefrontSurvey.Script.Bits
import StorefrontSurvey.Script.Chars
import StorefrontSurvey.Script.Rule
/-!
Patterns of lexemes: regular expressions over kinds of characters. Every ASCII character is a kind
of its own; the other characters fall into a few kinds that no lexeme tells apart. No lexeme holds
the NUL character.
-/
namespace StorefrontSurvey.Script

abbrev CharSet := Bits

namespace CharSet

def kinds : Nat := 136

def kindOf (c : Char) : Nat :=
  let n := c.toNat
  if n < 128 then n
  else if n = 0xA0 then 128
  else if Chars.isWideSpace c then 129
  else if n = 0x2028 then 130
  else if n = 0x2029 then 131
  else if n = 0x200B then 132
  else if n = 0x2060 then 133
  else if n = 0xFEFF then 134
  else 135

def ofChars (text : String) : CharSet := Bits.ofList (text.toList.map kindOf)

def range (first last : Char) : CharSet :=
  Bits.ofList ((List.range (last.toNat - first.toNat + 1)).map (· + first.toNat))

/-- Every character but NUL. -/
def all : CharSet := Bits.ofList ((List.range kinds).drop 1)

/-- Every character but NUL and those of a set. -/
def except (s : CharSet) : CharSet := Bits.ofList (((List.range kinds).drop 1).filter (!s.has ·))

def digits : CharSet := range '0' '9'

def lower : CharSet := range 'a' 'z'

def letters : CharSet := lower ||| range 'A' 'Z'

def hex : CharSet := digits ||| range 'a' 'f' ||| range 'A' 'F'

def octal : CharSet := range '0' '7'

/-- The marks that end a line besides line feed and carriage return. -/
def lineMarks : CharSet := Bits.ofList [130, 131]

/-- Characters skipped between lexemes. -/
def separators : CharSet :=
  range '\t' '\r' ||| ofChars " " ||| Bits.ofList [128, 129, 130, 131, 132, 133, 134]

def nameParts : CharSet :=
  except (range '\x01' '\x1f' ||| separators |||
    ofChars ":;\x60\"'@#.,|^&<=>+-*/\\%?!~()[]\x7b\x7d")

/-- Characters that may open a keyword: letters and the underscore. -/
def wordLetters : CharSet := letters ||| ofChars "_" ||| Bits.ofList [135]

end CharSet

/-- A regular expression over kinds of characters. -/
inductive Pattern where
  | nothing
  | one (set : CharSet)
  | seq (first rest : Pattern)
  | alt (first rest : Pattern)
  | star (item : Pattern)
  deriving Repr

namespace Pattern

open CharSet

def all : List Pattern → Pattern
  | [] => .nothing
  | [p] => p
  | p :: ps => .seq p (all ps)

def oneOf : List Pattern → Pattern
  | [] => .nothing
  | [p] => p
  | p :: ps => .alt p (oneOf ps)

def chars (text : String) : Pattern := .one (ofChars text)

def text (t : String) : Pattern := all (t.toList.map fun c => .one (Bits.ofList [kindOf c]))

def opt (p : Pattern) : Pattern := .alt p .nothing

def plus (p : Pattern) : Pattern := .seq p (.star p)

def times (p : Pattern) (least most : Nat) : Pattern :=
  all (List.replicate least p ++ List.replicate (most - least) (opt p))

/-- A character escape by code: four digits, or digits in braces. -/
def unicodeEscape : Pattern :=
  .alt (.seq (text "\\u") (times (.one hex) 4 4))
    (all [text "\\u\x7b", plus (.one hex), text "\x7d"])

def name : Pattern :=
  .seq (.alt (.one (nameParts &&& except digits)) unicodeEscape)
    (.star (.alt (.one nameParts) unicodeEscape))

/-- Digits with single underscores between them. -/
def digitRun (digit : CharSet) : Pattern :=
  .seq (.one digit) (.star (.seq (opt (text "_")) (.one digit)))

def number : Pattern :=
  let run := digitRun digits
  let exponent := .seq (chars "eE") (.seq (opt (chars "+-")) run)
  let hexadecimal := .seq (.alt (text "0x") (text "0X")) (digitRun hex)
  let binary := .seq (.alt (text "0b") (text "0B")) (digitRun (ofChars "01"))
  let octals := .seq (.alt (text "0o") (text "0O")) (digitRun octal)
  let whole := .alt (text "0")
    (all [opt (text "0"), .one (range '1' '9'), opt (.seq (opt (text "_")) run)])
  let decimal := oneOf [
    all [whole, text ".", opt run, opt exponent],
    all [text ".", run, opt exponent],
    .seq whole exponent,
    run]
  oneOf [hexadecimal, decimal, binary, octals,
    .seq (oneOf [hexadecimal, binary, octals, run]) (text "n")]

def comment : Pattern :=
  let star := chars "*"
  let inside := .seq (.star (.one (except (ofChars "*")))) (plus star)
  .alt (.seq (text "//") (.star (.one (except (ofChars "\r\n" ||| lineMarks)))))
    (all [text "/*", inside,
      .star (.seq (.one (except (ofChars "/*"))) inside), text "/"])

def characterReference : Pattern :=
  let numeric := .seq (text "#")
    (.alt (.seq (chars "xX") (times (.one hex) 1 6)) (times (.one digits) 1 5))
  all [text "&", .alt numeric (times (.one letters) 1 30), text ";"]

/-- Text of a quoted markup attribute: an ampersand belongs to it unless a character reference may
start there. -/
def markupRun (quote : String) : Pattern :=
  plus (.alt (.one (except (ofChars (quote ++ "&"))))
    (.seq (text "&") (.one (except (letters ||| ofChars "#")))))

def escape : Pattern :=
  .seq (text "\\") (oneOf [
    .one (except (ofChars "xu" ||| octal)),
    times (.one octal) 1 3,
    .seq (text "x") (times (.one hex) 2 2),
    .seq (text "u") (times (.one hex) 4 4),
    all [text "u\x7b", plus (.one hex), text "\x7d"],
    .seq (chars "\r?") (.one (ofChars "\n" ||| lineMarks))])

def regexBody : Pattern :=
  let escaped := .seq (text "\\") (.one (except (ofChars "\n")))
  plus (oneOf [
    all [text "[", .star (.alt escaped (.one (except (ofChars "]\n\\")))), text "]"],
    escaped,
    .one (except (ofChars "/\\[\n"))])

def dashedName : Pattern :=
  let start := letters ||| ofChars "_$"
  let part := start ||| digits
  all [.one start, .star (.one part), text "-", .star (.one (part ||| ofChars "-"))]

end Pattern

namespace LexClass

open CharSet

def pattern : LexClass → Pattern
  | .identifier => .name
  | .privateName => .seq (.text "#") .name
  | .number => .number
  | .comment => .comment
  | .scriptLine => .seq (.text "#!") (.star (.one (except (ofChars "\n"))))
  | .dashedName => .dashedName
  | .characterReference => .characterReference
  | .doubleQuotedRun => .plus (.one (except (ofChars "\"\\\r\n")))
  | .singleQuotedRun => .plus (.one (except (ofChars "'\\\r\n")))
  | .doubleQuotedMarkup => .markupRun "\""
  | .singleQuotedMarkup => .markupRun "'"
  | .escape => .escape
  | .patternBody => .regexBody
  | .patternEnd => .text "/"
  | .patternFlags => .plus (.one lower)

/-- Lexemes that must follow the one before them without a separator. -/
def isAttached : LexClass → Bool
  | .doubleQuotedRun | .singleQuotedRun | .doubleQuotedMarkup | .singleQuotedMarkup | .escape
  | .patternBody | .patternEnd | .patternFlags => true
  | _ => false

/-- Which of two lexemes at one place is taken before their lengths are compared. -/
def precedence : LexClass → Int
  | .doubleQuotedRun | .singleQuotedRun | .doubleQuotedMarkup | .singleQuotedMarkup
  | .patternEnd => 1
  | .patternBody => -1
  | _ => 0

end LexClass

namespace Lexeme

def pattern : Lexeme → Pattern
  | .text spelling => .text spelling
  | .ofClass kind => kind.pattern
  | .ofLayout _ => .nothing

def isAttached : Lexeme → Bool
  | .ofClass kind => kind.isAttached
  | _ => false

def precedence : Lexeme → Int
  | .ofClass kind => kind.precedence
  | _ => 0

/-- How specific a lexeme is: of two that end at one place with one precedence the more specific is
taken. -/
def specificity : Lexeme → Nat
  | .text _ => 2
  | .ofClass .patternEnd => 3
  | .ofClass kind => if kind.isAttached then 1 else 0
  | .ofLayout _ => 0

end Lexeme
end StorefrontSurvey.Script
