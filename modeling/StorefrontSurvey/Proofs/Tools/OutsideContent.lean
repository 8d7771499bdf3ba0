import StorefrontSurvey.Proofs.Sandbox.Isolation
import StorefrontSurvey.Tools.Tools
/-!
Listings of routes and outlines against what is outside of the root. Both read one file through the
sandbox, so two states that agree within the root are answered alike, wherever the links lead.
-/
namespace StorefrontSurvey.Tools

open StorefrontSurvey.Path (Location)
open Sandbox (AgreeWithin canonicalRoot isWithin read_text_agree)

variable {files others : Files} {root : Location} {config : Config}

theorem list_file_agree {rootPath : String} (agree : AgreeWithin files others root)
    (usable : canonicalRoot files rootPath = .ok root) (parser : Script.Parser) (file : String) :
    Routes.listFileBy parser files rootPath file =
      Routes.listFileBy parser others rootPath file := by
  unfold Routes.listFileBy
  rw [read_text_agree agree usable]

theorem survey_file_agree {rootPath : String} (agree : AgreeWithin files others root)
    (usable : canonicalRoot files rootPath = .ok root) (file : String) :
    Outline.surveyFile files rootPath file = Outline.surveyFile others rootPath file := by
  unfold Outline.surveyFile
  rw [read_text_agree agree usable]

/-- What stands outside of the root shows in no listing of routes and in no outline, nor in the
refusal of one. -/
theorem outside_content_unseen (agree : AgreeWithin files others root)
    (usable : canonicalRoot files config.root = .ok root) (routesFile? : Option String)
    (file : String) :
    listRoutes files config routesFile? = listRoutes others config routesFile? ∧
      outlineFile files config file = outlineFile others config file := by
  constructor
  · unfold listRoutes listRoutesBy
    simp only [list_file_agree agree usable]
  · unfold outlineFile
    rw [survey_file_agree agree usable]

/-- A link in the root to a file outside of it gives nothing of that file away. -/
theorem linked_file_unseen :
    let tree (secret : Files.Node) : Files :=
      ⟨[([['r']], .directory none), ([['r'], ['l']], .link "../s".toList), ([['s']], secret)]⟩
    let before := tree (.file [104, 105] 1)
    let after := tree (.file [] 2)
    let config : Config := ⟨"/r", none, "l", []⟩
    AgreeWithin before after [['r']] ∧ canonicalRoot before config.root = .ok [['r']] ∧
      listRoutes before config none = listRoutes after config none ∧
      outlineFile before config "l" = outlineFile after config "l" := by
  intro tree before after config
  have agree : AgreeWithin before after [['r']] := by
    constructor
    · intro place
      cases place with
      | nil => rfl
      | cons first rest =>
          simp only [Files.node?, before, after, tree, List.lookup_cons]
          repeat' split
          all_goals rfl
    · intro place inside
      cases place with
      | nil => rfl
      | cons first rest =>
          have elsewhere : (first :: rest == [['s']]) = false := by
            rw [beq_eq_false_iff_ne]
            rintro same
            rw [same] at inside
            revert inside
            decide
          simp only [Files.node?, before, after, tree, List.lookup_cons, elsewhere]
  have usable : canonicalRoot before "/r" = .ok [['r']] := rfl
  exact ⟨agree, usable, outside_content_unseen agree usable none "l"⟩

end StorefrontSurvey.Tools
