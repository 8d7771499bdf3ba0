import StorefrontSurvey.Proofs.Path.Ways
import StorefrontSurvey.Proofs.Sandbox.Faults
/-!
Targets that lead out of the root by their own segments. They are refused before any file is looked
at, so the refusal is the same whatever files and links there are. A target that stays below the root
once its segments are collapsed is not refused in this way, unless a backslash in it is taken for a
slash.
-/
namespace StorefrontSurvey.Sandbox

open StorefrontSurvey.Path (Chars Segment Location Absolute IsName Names collapsedFrom)

variable {files : Files} {root : Location} {rootPath target : String} {place : Absolute}

theorem canonical_root_names (usable : canonicalRoot files rootPath = .ok root) : Names root :=
  Files.standing_names (canonical_root_firm usable).standing

/-! ### The gate -/

/-- A target that the gate lets through has its place below the root. -/
theorem below_of_stays_in (stays : StaysIn root target) :
    root <+: (Path.fromDirectory root target.toList).location := by
  by_contra outside
  obtain ⟨more, way⟩ := Path.way_from_outside outside
  rw [StaysIn, way, Path.climbs_out_up] at stays
  cases stays

/-- Only a target with a backslash is stopped by the gate although its place is below the root. -/
theorem stays_in_of_below (rootNames : Names root)
    (below : root <+: (Path.fromDirectory root target.toList).location)
    (free : '\\' ∉ target.toList) : StaysIn root target := by
  have names := Path.from_directory_names root target.toList
  obtain ⟨rest, whole⟩ := below
  have beyond : (collapsedFrom root target.toList).drop root.length = rest := by
    rw [← Path.from_directory_location rootNames, ← whole, List.drop_left]
  have given : ∀ name ∈ rest, '\\' ∉ name := by
    intro name member within
    rw [← beyond] at member
    exact free (Path.mem_of_mem_split (Path.mem_beyond_directory rootNames member) within)
  rw [← whole] at names
  rw [StaysIn, ← whole, Path.way_from_below]
  exact Path.climbs_out_below (List.forall_mem_append.1 names).2 given

theorem resolve_in_stopped (outside : ¬StaysIn root target) :
    resolveIn files root target =
      .error (.escape (.bySegments target (Path.fromDirectory root target.toList))) := by
  have climbs : Path.climbsOut (String.ofList
      (Path.wayFrom root (Path.fromDirectory root target.toList).location)) = true := by
    simpa [StaysIn] using outside
  simp [resolveIn, climbs]

/-! ### Past the gate -/

/-- A fault speaks of a target that leads out by its own segments. -/
def BySegments (fault : Fault) : Prop := ∃ written place, fault = .escape (.bySegments written place)

theorem of_file_not_by_segments (fault : Files.Fault) : ¬BySegments (.ofFile fault) := by
  rintro ⟨written, place, same⟩
  exact of_file_not_escape fault _ same

theorem below_not_by_segments (path : Absolute) (unresolved : Files.Unresolved) :
    ¬BySegments (.below path unresolved) := by
  rintro ⟨written, place, same⟩
  exact below_not_escape path unresolved _ same

theorem by_ancestor_not_by_segments (found : Location) :
    ¬BySegments (.escape (.byAncestor target found)) := by
  simp [BySegments, Fault.escape]

theorem check_ancestors_not_by_segments {fault : Fault} (above : List Absolute)
    (failed : checkAncestors files root target above = .error fault) : ¬BySegments fault := by
  induction above with
  | nil => cases failed
  | cons ancestor above ih =>
      rw [checkAncestors] at failed
      split at failed
      · cases failed
        exact of_file_not_by_segments _
      · exact ih failed
      · split at failed
        · cases failed
          exact below_not_by_segments _ _
        · split_ifs at failed
          cases failed
          exact by_ancestor_not_by_segments _

theorem resolve_missing_not_by_segments {fault : Fault} {other : Absolute}
    (failed : resolveMissing files root other target = .error fault) : ¬BySegments fault := by
  have checked (outcome : (checkAncestors files root target other.parents).map (fun _ => other) =
      .error fault) : ¬BySegments fault := by
    cases found : checkAncestors files root target other.parents with
    | ok done => simp [found, Except.map] at outcome
    | error cause =>
        rw [found] at outcome
        cases outcome
        exact check_ancestors_not_by_segments _ found
  unfold resolveMissing at failed
  split at failed
  · exact checked failed
  · exact checked failed
  · cases failed
    exact below_not_by_segments _ _
  · split_ifs at failed
    cases failed
    simp [BySegments, Fault.escape]

/-- What the gate lets through is not refused for its segments later either. -/
theorem resolve_in_not_by_segments {fault : Fault} (stays : StaysIn root target)
    (failed : resolveIn files root target = .error fault) : ¬BySegments fault := by
  have passes : Path.climbsOut (String.ofList
      (Path.wayFrom root (Path.fromDirectory root target.toList).location)) = false := stays
  unfold resolveIn at failed
  dsimp only at failed
  rw [passes, if_neg Bool.false_ne_true] at failed
  split at failed
  · split_ifs at failed
    cases failed
    simp [BySegments, Fault.escape]
  · exact resolve_missing_not_by_segments failed
  · cases failed
    exact below_not_by_segments _ _

/-- The gate is exact. A target whose collapsed segments do not go on from the root's is refused, and
the refusal speaks of nothing but the target and its place. One whose segments do, and that holds no
backslash, is let through, and is not refused for its segments later. -/
theorem lexical_gate_exact (usable : canonicalRoot files rootPath = .ok root) (target : String) :
    (¬root <+: collapsedFrom root target.toList →
      resolve files rootPath target =
        .error (.escape (.bySegments target (Path.fromDirectory root target.toList)))) ∧
    (root <+: collapsedFrom root target.toList → '\\' ∉ target.toList →
      StaysIn root target ∧
        ∀ fault, resolve files rootPath target = .error fault → ¬BySegments fault) := by
  have names := canonical_root_names usable
  rw [← Path.from_directory_location names, resolve_in_of_usable usable]
  constructor
  · intro outside
    exact resolve_in_stopped fun stays => outside (below_of_stays_in stays)
  · intro below free
    have stays := stays_in_of_below names below free
    exact ⟨stays, fun fault failed => resolve_in_not_by_segments stays failed⟩

def onlyDirectory : Files := ⟨[([['r']], .directory none)]⟩

/-- A sibling whose name only starts like the root's is refused, and a target that goes up no further
than it went down is not. -/
theorem sibling_refused :
    canonicalRoot onlyDirectory "/r" = .ok [['r']] ∧
      ¬[['r']] <+: collapsedFrom [['r']] "../ra/x".toList ∧
      resolve onlyDirectory "/r" "../ra/x" =
        .error (.escape (.bySegments "../ra/x" ([['r', 'a'], ['x']] : Location))) ∧
      [['r']] <+: collapsedFrom [['r']] "a/../b".toList ∧ StaysIn [['r']] "a/../b" := by
  have usable : canonicalRoot onlyDirectory "/r" = .ok [['r']] := by decide +kernel
  have outside : ¬[['r']] <+: collapsedFrom [['r']] "../ra/x".toList := by decide +kernel
  have below : [['r']] <+: collapsedFrom [['r']] "a/../b".toList := by decide +kernel
  refine ⟨usable, outside, (lexical_gate_exact usable "../ra/x").1 outside, below, ?_⟩
  exact ((lexical_gate_exact usable "a/../b").2 below (by decide)).1

end StorefrontSurvey.Sandbox
