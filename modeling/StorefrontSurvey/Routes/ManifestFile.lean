import StorefrontSurvey.Routes.Manifest
import StorefrontSurvey.Sandbox.Sandbox
/-!
Route manifests in files. A manifest that cannot be read has no routes.
-/
namespace StorefrontSurvey.Routes

def unreadWarning (obstacle : Sandbox.Obstacle) : Warning :=
  { code := "FILE_READ_ERROR"
    message := "Failed to read routes file: " ++ obstacle.message
    message_ne := append_ne_empty_left (by decide) }

/-- The routes of a manifest in a root, read with a parser, unless its path is refused. -/
def listFileBy (parser : Script.Parser) (files : Files) (root file : String) :
    Except Sandbox.Refusal Listing :=
  match Sandbox.readText files root file with
  | .ok text => .ok (listBy parser (String.ofList text) file)
  | .error (.blocked obstacle) => .ok ⟨[], .low, [unreadWarning obstacle]⟩
  | .error (.refused refusal) => .error refusal

def listFile (files : Files) (root file : String) : Except Sandbox.Refusal Listing :=
  listFileBy Script.parse files root file

end StorefrontSurvey.Routes
