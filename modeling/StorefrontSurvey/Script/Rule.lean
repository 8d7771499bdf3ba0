/-!
Grammar rules. A grammar is a list of named rules over symbols and lexemes; a rule can carry a rank
(how tightly it binds), a side (which way it associates), a weight (which reading of an ambiguous
stretch is kept), a field name and a display name for what it matches.
-/
namespace StorefrontSurvey.Script

/-- How tightly a rule binds: unranked, by number, or by a name that the grammar's rankings order.
-/
inductive Rank where
  | unranked
  | level (n : Int)
  | named (name : String)
  deriving DecidableEq, Repr, Inhabited

inductive Side where
  | left
  | right
  deriving DecidableEq, Repr

inductive LexClass where
  | identifier
  | privateName
  | number
  | comment
  | scriptLine
  | dashedName
  | characterReference
  | doubleQuotedRun
  | singleQuotedRun
  | doubleQuotedMarkup
  | singleQuotedMarkup
  | escape
  | patternBody
  | patternEnd
  | patternFlags
  deriving DecidableEq, Repr, Hashable

/-- Lexemes whose presence depends on layout or on what else may stand at that place. -/
inductive LayoutClass where
  | semicolon
  | templateRun
  | questionMark
  | markupComment
  | markupText
  | signatureSemicolon
  | recovery
  deriving DecidableEq, Repr, Hashable

inductive Lexeme where
  | text (spelling : String)
  | ofClass (kind : LexClass)
  | ofLayout (kind : LayoutClass)
  deriving DecidableEq, Repr, Hashable

/-- The name under which a matched part is shown. -/
structure Label where
  name : String
  named : Bool
  deriving DecidableEq, Repr

inductive Rule where
  | blank
  | symbol (name : String)
  | lexeme (lexeme : Lexeme)
  | seq (first rest : Rule)
  | choice (first rest : Rule)
  | repeat1 (item : Rule)
  | ranked (rank : Rank) (side : Option Side) (item : Rule)
  | weighted (weight : Int) (item : Rule)
  | field (name : String) (item : Rule)
  | shown (label : Label) (item : Rule)
  deriving DecidableEq, Repr

namespace Rule

def lit (spelling : String) : Rule := .lexeme (.text spelling)

def all : List Rule → Rule
  | [] => .blank
  | [r] => r
  | r :: rs => .seq r (all rs)

def oneOf : List Rule → Rule
  | [] => .blank
  | [r] => r
  | r :: rs => .choice r (oneOf rs)

def anyLit (spellings : List String) : Rule := oneOf (spellings.map lit)

def opt (r : Rule) : Rule := .choice r .blank

def many (r : Rule) : Rule := .choice (.repeat1 r) .blank

/-- One or more items with a separator between them. -/
def separated1 (separator item : Rule) : Rule :=
  .seq item (many (.seq separator item))

def commas1 (item : Rule) : Rule := separated1 (lit ",") item

def commas (item : Rule) : Rule := opt (commas1 item)

def rank (name : String) (r : Rule) : Rule := .ranked (.named name) none r

def rankLeft (name : String) (r : Rule) : Rule := .ranked (.named name) (some .left) r

def rankRight (name : String) (r : Rule) : Rule := .ranked (.named name) (some .right) r

def leftward (r : Rule) : Rule := .ranked (.level 0) (some .left) r

def rightward (r : Rule) : Rule := .ranked (.level 0) (some .right) r

def atLevel (n : Int) (r : Rule) : Rule := .ranked (.level n) none r

def asNode (name : String) (r : Rule) : Rule := .shown ⟨name, true⟩ r

def asToken (name : String) (r : Rule) : Rule := .shown ⟨name, false⟩ r

end Rule

/-- One place in a ranking: a rank's name or a rule. -/
inductive RankEntry where
  | name (rank : String)
  | rule (rule : String)
  deriving DecidableEq, Repr

/-- A grammar before its rules are flattened into productions. -/
structure RuleSet where
  rules : List (String × Rule)
  /-- The word lexeme: a text matched by it may be a keyword. -/
  word : String
  /-- Rules that may stand between any two lexemes. -/
  extras : List String
  /-- Rules that group other rules and are never shown. -/
  groups : List String
  /-- Rules replaced by their parts wherever they are used. -/
  inlined : List String
  /-- Each ranking lists what binds tighter first. -/
  rankings : List (List RankEntry)
  /-- Layout lexemes by the name that the rules use. -/
  layout : List (String × LayoutClass)

end StorefrontSurvey.Script
