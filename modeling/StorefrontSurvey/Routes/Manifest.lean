import StorefrontSurvey.Report
import StorefrontSurvey.Routes.Route
import StorefrontSurvey.Routes.CallText
import StorefrontSurvey.Routes.CallNode
/-!
Reading a route manifest. The syntax tree is asked first; when the manifest is damaged or the tree
yields no route, calls are looked for in the text, and the answer is of low confidence.
-/
namespace StorefrontSurvey.Routes

/-- What one way of reading found, or why it could not read. -/
structure Finding where
  routes : List Route
  error? : Option String
  deriving DecidableEq, Repr

structure Listing where
  routes : List Route
  confidence : Confidence
  warnings : List Warning
  deriving DecidableEq, Repr

/-- A manifest with fewer routes than this may be cut short. -/
def expectedRoutes : Nat := 3

def textCaveat : String :=
  "Regex may match commented-out code, template strings, or unrelated functions named 'route'."

def fallbackWarning (reason : String) : Warning :=
  { code := "ROUTES_PARSE_FALLBACK_REGEX"
    message := reason ++ textCaveat
    message_ne := append_ne_empty_right (by decide) }

def failedWarning (error : String) : Warning :=
  fallbackWarning ("AST parsing failed: " ++ error ++ ". Falling back to regex. ")

def emptyWarning : Warning :=
  fallbackWarning "AST parsing found no routes, falling back to regex. "

def partialWarning (found : Nat) : Warning :=
  { code := "PARTIAL_PARSE"
    message := "AST parsing found " ++ toString found ++ " route(s), fewer than expected"
    message_ne := append_ne_empty_right (by decide) }

inductive Tier where
  | tree
  | text
  deriving DecidableEq, Repr

/-- The ways that are used when the tree gives a certain finding. -/
def tiersUsed (tree : Finding) : List Tier :=
  if tree.error?.isSome || tree.routes.isEmpty then [.tree, .text] else [.tree]

/-- Takes the tree's finding unless it failed or is empty; then the text's finding. -/
def choose (tree : Finding) (text : Unit → Finding) : Listing :=
  match tree.error? with
  | some error => ⟨(text ()).routes, .low, [failedWarning error]⟩
  | none =>
    if tree.routes.isEmpty then ⟨(text ()).routes, .low, [emptyWarning]⟩
    else if tree.routes.length < expectedRoutes then
      ⟨tree.routes, .medium, [partialWarning tree.routes.length]⟩
    else ⟨tree.routes, .high, []⟩

/-- What a tree gives, unless there is a fault in it. -/
def Finding.ofTree (tree : Script.Node) : Finding :=
  match tree.syntaxError? with
  | some error => ⟨[], some error⟩
  | none => ⟨callRoutes tree, none⟩

def fromTree (source file : String) : Finding :=
  .ofTree (Script.parse (Script.dialectOf file) source)

def fromText (source : String) : Finding := ⟨textRoutes source, none⟩

/-- The listing of a manifest of which a parser makes the tree. -/
def listBy (parser : Script.Parser) (source file : String) : Listing :=
  choose (.ofTree (parser (Script.dialectOf file) source)) fun _ => fromText source

def list (source file : String) : Listing := listBy Script.parse source file

end StorefrontSurvey.Routes
