import StorefrontSurvey.Outline.Outline
import StorefrontSurvey.Sandbox.Sandbox
/-!
Outlines of files. A file that cannot be read has an empty outline; one with a fault in its syntax
is outlined as far as it was understood.
-/
namespace StorefrontSurvey.Outline

structure Survey where
  outline : Outline
  confidence : Confidence
  warnings : List Warning
  deriving Repr

def unreadWarning (obstacle : Sandbox.Obstacle) : Warning :=
  { code := "PARSE_ERROR"
    message := "Failed to parse file: " ++ obstacle.message
    message_ne := append_ne_empty_left (by decide) }

def recoveredWarning (fault : String) : Warning :=
  { code := "PARSE_RECOVERED"
    message := "File has a " ++ (fault ++ "; outline may be incomplete")
    message_ne := append_ne_empty_left (by decide) }

def survey (source file : String) : Survey :=
  match ofSource source file with
  | (outline, none) => ⟨outline, .high, []⟩
  | (outline, some fault) => ⟨outline, .medium, [recoveredWarning fault]⟩

/-- The outline of a file in a root, unless its path is refused. -/
def surveyFile (files : Files) (root file : String) : Except Sandbox.Refusal Survey :=
  match Sandbox.readText files root file with
  | .ok text => .ok (survey (String.ofList text) file)
  | .error (.blocked obstacle) => .ok ⟨.empty, .low, [unreadWarning obstacle]⟩
  | .error (.refused refusal) => .error refusal

end StorefrontSurvey.Outline
