import StorefrontSurvey.Path.Lexical
import StorefrontSurvey.Script.Grammar.Statement
/-!
The dialect of a script, told from its file's suffix.
-/
namespace StorefrontSurvey.Script

open Grammar (Dialect)

/-- The dialect with markup also reads plain scripts, so it is the one for unknown suffixes. -/
def dialectOf (file : String) : Dialect :=
  if [".cts", ".mts", ".ts"].contains (Path.suffix file) then .typescript else .tsx

def Grammar.Dialect.name : Dialect → String
  | .typescript => "typescript"
  | .tsx => "tsx"

end StorefrontSurvey.Script
