import StorefrontSurvey.Proofs.Files.Likeness
import StorefrontSurvey.Proofs.Sandbox.Exits
/-!
Two states that agree within a root. The same places are handed back in both, and the same texts are
read: no content from outside of the root is ever seen.
-/
namespace StorefrontSurvey.Sandbox

open StorefrontSurvey.Path (Chars Segment Location Absolute Names)
open StorefrontSurvey.Files (Alike settled_top resolve_strict_alike resolve_lenient_alike)

/-- The tree is the same, and so is all that stands within the root. What files outside of it hold,
and all times and sizes there, may differ. -/
structure AgreeWithin (files others : Files) (root : Location) : Prop where
  alike : Alike files others
  same : ∀ place, isWithin place root = true → files.node? place = others.node? place

variable {files others : Files} {root : Location} {target : String}

theorem canonical_root_alike (alike : Alike files others) (rootPath : String) :
    canonicalRoot files rootPath = canonicalRoot others rootPath := by
  unfold canonicalRoot
  rw [resolve_strict_alike alike (settled_top files)]

theorem check_ancestors_alike (alike : Alike files others) (root : Location) (target : String)
    (above : List Absolute) :
    checkAncestors files root target above = checkAncestors others root target above := by
  induction above with
  | nil => rfl
  | cons ancestor above ih =>
      rw [checkAncestors, checkAncestors, Files.leads_somewhere_alike alike,
        resolve_lenient_alike alike (settled_top files), ih]

theorem resolve_in_alike (alike : Alike files others) (root : Location) (target : String) :
    resolveIn files root target = resolveIn others root target := by
  have missing (place : Absolute) :
      resolveMissing files root place target = resolveMissing others root place target := by
    unfold resolveMissing
    rw [resolve_strict_alike alike (settled_top files), check_ancestors_alike alike]
  unfold resolveIn
  simp only [resolve_strict_alike alike (settled_top files), missing]

/-- Where a target lies is up to the tree alone. -/
theorem resolve_alike (alike : Alike files others) (rootPath target : String) :
    resolve files rootPath target = resolve others rootPath target := by
  unfold resolve
  simp only [canonical_root_alike alike, resolve_in_alike alike]

theorem resolved_status_agree {rootPath : String} {place : Absolute}
    (agree : AgreeWithin files others root)
    (usable : canonicalRoot files rootPath = .ok root)
    (resolved : resolve files rootPath target = .ok place) :
    files.status place = others.status place := by
  have names := Path.from_directory_names root target.toList
  rcases exit_status names (resolve_exit usable resolved) with
    ⟨found, rfl, firm, inside⟩ | ⟨fault, asked⟩
  · exact Files.status_same agree.alike (Files.firm_locate firm) (agree.same found inside)
  · rw [asked, Files.status_error_alike agree.alike asked]

theorem read_text_agree {rootPath : String} (agree : AgreeWithin files others root)
    (usable : canonicalRoot files rootPath = .ok root) (target : String) :
    readText files rootPath target = readText others rootPath target := by
  unfold readText
  rw [← resolve_alike agree.alike]
  cases resolved : resolve files rootPath target with
  | error fault => rfl
  | ok place =>
      simp only [bind, Except.bind, Files.content, resolved_status_agree agree usable resolved]

end StorefrontSurvey.Sandbox
