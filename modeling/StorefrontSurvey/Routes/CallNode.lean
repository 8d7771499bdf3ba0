import StorefrontSurvey.Routes.Route
import StorefrontSurvey.Script.Fault
import StorefrontSurvey.Script.Suffix
/-!
Routes declared by calls in a syntax tree: calls of the plain name `route` whose first two
arguments, comments aside, are string literals that are not empty.
-/
namespace StorefrontSurvey.Routes

open Script (Node)

/-- The arguments of a call of the plain name `route`. -/
def routeArguments? (n : Node) : Option Node :=
  if n.kind = "call_expression" then
    match n.field? "function", n.field? "arguments" with
    | some f, some a =>
      if f.kind = "identifier" ∧ f.text = "route" ∧ a.kind = "arguments" then some a else none
    | _, _ => none
  else none

def routeOfCall? (n : Node) : Option Route :=
  match routeArguments? n with
  | none => none
  | some a =>
    match a.namedChildren.filter (·.kind ≠ "comment") with
    | p :: f :: _ =>
      if p.kind = "string" ∧ f.kind = "string" ∧ p.unquoted ≠ "" ∧ f.unquoted ≠ "" then
        some (Route.of p.unquoted f.unquoted)
      else none
    | _ => none

/-- The routes of a tree in the order in which their calls start; of calls that start at one place
the outer one first. -/
def callRoutes (tree : Node) : List Route :=
  let calls := tree.preorder.filterMap fun n =>
    (routeOfCall? n).map fun r => (n.head.startByte, r)
  (calls.mergeSort fun a b => a.1 ≤ b.1).map (·.2)

end StorefrontSurvey.Routes
