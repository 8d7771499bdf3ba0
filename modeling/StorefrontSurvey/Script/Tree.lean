import StorefrontSurvey.Script.Parser
import StorefrontSurvey.Script.Grammar
/-!
Syntax trees: what remains of a parse once hidden parts have given way to their children. A node
carries its kind, its place, its text, the fields under which its parent holds it, and whether the
text inside it is damaged.
-/
namespace StorefrontSurvey.Script

structure NodeHead where
  kind : String
  /-- Not a mere token. -/
  named : Bool
  /-- The node stands for a lexeme that is not in the text. -/
  missing : Bool
  /-- Something inside the node, or the node itself, did not fit or was missing. -/
  damaged : Bool
  startByte : Nat
  row : Nat
  /-- In bytes from the start of the row. -/
  column : Nat
  text : String
  fields : List String
  deriving DecidableEq, Repr, Inhabited

inductive Node where
  | mk (head : NodeHead) (children : List Node)
  deriving Inhabited

namespace Node

def head : Node → NodeHead
  | mk h _ => h

def children : Node → List Node
  | mk _ cs => cs

def kind (n : Node) : String := n.head.kind

def text (n : Node) : String := n.head.text

/-- Text that fits nowhere. -/
def isError (n : Node) : Bool := n.kind == "ERROR"

def namedChildren (n : Node) : List Node := n.children.filter (·.head.named)

/-- The first child held under a field. -/
def field? (n : Node) (name : String) : Option Node :=
  n.children.find? fun c => c.head.fields.contains name

/-- Whether one of the children is a token of a kind. -/
def hasToken (n : Node) (kind : String) : Bool := n.children.any (·.kind == kind)

end Node

namespace Part

/-- How a part is shown under a label, or by itself. -/
def appearance (g : Vocabulary) (label? : Option Label) (p : Part) : Appearance :=
  match label?, p.info.kind with
  | some l, .symbol _ => ⟨l.name, true, l.named⟩
  | _, .symbol s => g.appearances.getD s default
  | _, .error => ⟨"ERROR", true, true⟩
  | _, .skipped => ⟨"", false, false⟩

def placeOf (g : Vocabulary) (shape? : Option Nat) (place : Nat) : Option PlaceLook :=
  shape?.bind fun n => (g.shapes.getD n [])[place]?

def headOf (s : Source) (a : Appearance) (i : PartInfo) (fields : List String) : NodeHead :=
  { kind := a.name, named := a.named, missing := i.missing, damaged := i.cost > 0
    startByte := s.byteAt i.start, row := s.rowAt i.start, column := s.columnAt i.start
    text := s.slice i.start i.stop, fields }

mutual

/-- The nodes of a part in front of other nodes: the part itself if it is shown, its children's
nodes if not. -/
def nodes (g : Vocabulary) (s : Source) (label? : Option Label) (fields : List String) :
    Part → List Node → List Node
  | mk i cs, rest =>
    let a := appearance g label? (mk i cs)
    if a.visible then
      Node.mk (headOf s a i fields) (childNodes g s i.shape? [] 0 cs []) :: rest
    else childNodes g s i.shape? fields 0 cs rest

/-- The nodes of children in front of other nodes. Children of a hidden part are also held under the
fields of that part. -/
def childNodes (g : Vocabulary) (s : Source) (shape? : Option Nat)
    (inherited : List String) : Nat → List Part → List Node → List Node
  | _, [], rest => rest
  | place, c :: cs, rest =>
    if c.info.extra then
      nodes g s none [] c (childNodes g s shape? inherited place cs rest)
    else
      let p := placeOf g shape? place
      nodes g s (p.bind (·.label)) ((p.bind (·.field)).toList ++ inherited) c
        (childNodes g s shape? inherited (place + 1) cs rest)

end

end Part

/-- The dialects' languages, computed when first used. -/
def typescriptLanguage : Thunk Language :=
  Thunk.mk fun _ => Language.ofRules (Grammar.rules .typescript)

def tsxLanguage : Thunk Language := Thunk.mk fun _ => Language.ofRules (Grammar.rules .tsx)

def Grammar.Dialect.language : Grammar.Dialect → Language
  | .typescript => typescriptLanguage.get
  | .tsx => tsxLanguage.get

/-- What turns the text of a script into its tree. -/
abbrev Parser := Grammar.Dialect → String → Node

def parse : Parser := fun dialect text =>
  let language := dialect.language
  let source := Source.ofString text
  match (language.parse source).nodes language.automaton.vocabulary source none [] [] with
  | n :: _ => n
  | [] => Node.mk { kind := "ERROR", named := true, missing := false, damaged := true
                    startByte := 0, row := 0, column := 0, text, fields := [] } []

end StorefrontSurvey.Script
