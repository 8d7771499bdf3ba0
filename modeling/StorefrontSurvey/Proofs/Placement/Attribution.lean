import Mathlib.Data.String.Basic
import StorefrontSurvey.Proofs.Placement.Spelling
import StorefrontSurvey.Routes.Route
/-!
The module of a file, told in two ways: a listing of routes reads it off the normal form of the path,
a check of placements off the path as it is written. Both look for the first directory in a directory
`modules`. The main statement says when they name the same one.
-/
namespace StorefrontSurvey.Placement

open StorefrontSurvey.Path (Segment moduleAmong?)

theorem owner_among_module_iff (segments : List Segment) (name : String) :
    ownerAmong segments = .module name ↔ moduleAmong? segments = some name.toList := by
  unfold ownerAmong
  cases moduleAmong? segments with
  | none =>
      simp only [reduceCtorEq, iff_false]
      split_ifs <;> simp
  | some other => simp [String.ofList_eq]

/-- A check of placements names the first module among the segments as they are written. -/
theorem owner_module_iff (path name : String) :
    ownerOf path = .module name ↔ moduleAmong? (written path) = some name.toList := by
  rw [owner_of_written, owner_among_module_iff]

theorem written_normalize (path : String) :
    written (Path.normalize path) = (Path.splitSlash (Path.normalize path).toList).tail := by
  rw [written, Path.unify_normalize, Path.normalize, String.toList_ofList]

/-- A listing of routes names the module that the normal form shows as it is written. -/
theorem module_name_iff (path name : String) :
    Path.moduleName? path = some name ↔ ownerOf (Path.normalize path) = .module name := by
  have found : Path.moduleName? path =
      (moduleAmong? (written (Path.normalize path))).map String.ofList := by
    rw [written_normalize, ← Path.module_span_name, Option.map_map]
    rfl
  rw [found, owner_module_iff, Option.map_eq_some_iff]
  simp [String.ofList_eq]

/-- A path shows one module: the first one among its segments after the first slash is the same, or is
missing, before and after empty, `.` and `..` segments are collapsed. -/
def ShowsOneModule (path : String) : Prop :=
  moduleAmong? (written path) = moduleAmong? (collapsed path)

theorem shows_one_module_iff (path : String) :
    ShowsOneModule path ↔
      ∀ name, ownerOf path = .module name ↔ ownerOf (Path.normalize path) = .module name := by
  simp only [owner_of_written path, owner_of_normalize, owner_among_module_iff]
  constructor
  · intro same name
    rw [same]
  · intro each
    apply Option.ext
    intro name
    have told := each (String.ofList name)
    rwa [String.toList_ofList] at told

/-- A file is listed under the module that owns its normal form. The check of placements names the
same module exactly if the path shows one module. -/
theorem attributions_agree_iff (path : String) :
    (∀ pattern, (Routes.Route.of pattern path).module? = Path.moduleName? path) ∧
    (∀ name, Path.moduleName? path = some name ↔ ownerOf (Path.normalize path) = .module name) ∧
    ((∀ name, ownerOf path = .module name ↔ Path.moduleName? path = some name) ↔
      ShowsOneModule path) := by
  refine ⟨?_, module_name_iff path, ?_⟩
  · intro pattern
    rw [Routes.Route.of]
  · simp only [module_name_iff, shows_one_module_iff]

/-- Paths of names alone show one module, with slashes or backslashes, from the top or not. -/
theorem plain_shows_one_module {path : String}
    (plain : Path.Plain (Path.unifySlashes path.toList)) : ShowsOneModule path := by
  rw [shows_one_module_iff, ownerOf, ownerOf, normalize_plain plain]
  exact fun _ => Iff.rfl

/-- A file that is reached through another module is listed under its own module, and judged as the
other's. -/
theorem dots_change_module :
    let path := "app/modules/a/../b/y.gql.ts"
    ownerOf path = .module "a" ∧ Path.moduleName? path = some "b" ∧
      (Routes.Route.of "/y" path).module? = some "b" := by
  decide +kernel

end StorefrontSurvey.Placement
