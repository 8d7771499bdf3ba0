import StorefrontSurvey.Placement.Verdict
import StorefrontSurvey.Proofs.Path.Segments
/-!
Who owns a file, told by the segments after the first slash of its path. The path is taken as it is
written, with no segment collapsed; for its normal form the collapsed segments decide.
-/
namespace StorefrontSurvey.Placement

open StorefrontSurvey.Path (Chars Segment splitSlash unifySlashes moduleAmong? keptBelow)

/-- The segments after the first slash of a path as it is written. -/
def written (path : String) : List Segment := (splitSlash (unifySlashes path.toList)).tail

/-- The segments after the first slash of a path with empty, `.` and `..` segments collapsed. -/
def collapsed (path : String) : List Segment := keptBelow (unifySlashes path.toList)

/-- The owner that segments show: the first module among them, or else a directory of the platform
or of a layout. -/
def ownerAmong (segments : List Segment) : Owner :=
  match moduleAmong? segments with
  | some name => .module (String.ofList name)
  | none =>
    if "platform".toList ∈ segments.dropLast then .platform
    else if "layout".toList ∈ segments.dropLast then .layout
    else .unknown

theorem owner_of_text (text : Chars) :
    (match Path.moduleSpan? text with
      | some span => Owner.module (String.ofList span.name)
      | none =>
        if Text.occursIn "/platform/".toList text then .platform
        else if Text.occursIn "/layout/".toList text then .layout
        else .unknown) = ownerAmong (splitSlash text).tail := by
  have platform := Path.occurs_in_slashed_iff "platform".toList text (by decide)
  have layout := Path.occurs_in_slashed_iff "layout".toList text (by decide)
  rw [ownerAmong, ← Path.module_span_name]
  cases Path.moduleSpan? text with
  | some span => rfl
  | none =>
      simp only [Option.map_none, ← platform, ← layout]
      rfl

theorem owner_of_written (path : String) : ownerOf path = ownerAmong (written path) :=
  owner_of_text _

theorem owner_among_blanks (blanks segments : List Segment) (blank : ∀ s ∈ blanks, s = []) :
    ownerAmong (blanks ++ segments) = ownerAmong segments := by
  have within {name : Segment} (named : name ≠ []) :
      name ∈ (blanks ++ segments).dropLast ↔ name ∈ segments.dropLast :=
    Path.mem_drop_last_blanks blanks segments blank named
  have platform := within (show "platform".toList ≠ [] by decide)
  have layout := within (show "layout".toList ≠ [] by decide)
  simp only [ownerAmong, Path.module_among_blanks blanks segments blank, platform, layout]

/-- The owner of a normal form is told by the collapsed segments. -/
theorem owner_of_normalize (path : String) :
    ownerOf (Path.normalize path) = ownerAmong (collapsed path) := by
  obtain ⟨blanks, blank, parts⟩ := Path.normal_text_split (unifySlashes path.toList)
  rw [owner_of_written, written, Path.unify_normalize, parts, collapsed,
    owner_among_blanks blanks _ blank]

end StorefrontSurvey.Placement
