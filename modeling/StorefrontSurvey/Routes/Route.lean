import StorefrontSurvey.Path.Lexical
/-!
Routes: a URL pattern and the file that serves it, with what the file's path says about it.
-/
namespace StorefrontSurvey.Routes

inductive RouteKind where
  | route
  | resource
  | layout
  deriving DecidableEq, Repr, Inhabited

structure Route where
  pattern : String
  file : String
  kind : RouteKind
  /-- The module that the file lies in. -/
  module? : Option String
  deriving DecidableEq, Repr, Inhabited

/-- Files for platform routing and route scripts without markup serve resources; of the others,
those below a layout directory are layouts. -/
def kindOf (file : String) : RouteKind :=
  let path := (Path.normalize file).toList
  if Text.occursIn "/platform/routing/".toList path || ".route.ts".toList.isSuffixOf path then
    .resource
  else if Text.occursIn "/layout/".toList path then .layout
  else .route

def Route.of (pattern file : String) : Route :=
  { pattern, file, kind := kindOf file, module? := Path.moduleName? file }

end StorefrontSurvey.Routes
