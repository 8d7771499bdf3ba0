import Mathlib.Data.List.Nodup
import StorefrontSurvey.Proofs.Schema.Copies
import StorefrontSurvey.Proofs.Schema.Reasons
/-!
One load. It hands out a copy, keeps a new one, or fails and leaves no trace. A load that fails is
answered with the placeholder and one warning, except where the reason cannot be written: then there
is no warning, and so no answer.
-/
namespace StorefrontSurvey.Schema.Registry

open StorefrontSurvey.Path (Location Absolute)
open StorefrontSurvey.Files (Node)

variable {registry : Registry} {files : Files} {directory place : Location} {path : String}

/-! ### At a location -/

theorem mem_keep {catalog : Catalog} {modified : Int} {size : Nat} {other : Location}
    {copy : Copy} :
    (other, copy) ∈ (registry.keep place catalog modified size).copies ↔
      (other = place ∧
        copy = ⟨catalog, (place : Absolute).text, modified, size, registry.made⟩) ∨
      (other ≠ place ∧ (other, copy) ∈ registry.copies) := by
  simp only [keep, List.mem_cons, Prod.mk.injEq, List.mem_filter, decide_eq_true_iff]
  tauto

theorem copy_of_keep (catalog : Catalog) (modified : Int) (size : Nat) :
    (registry.keep place catalog modified size).copy? place =
      some ⟨catalog, (place : Absolute).text, modified, size, registry.made⟩ := by
  simp [keep, copy?]

theorem current_kept {node : Node} {copy : Copy} (held : registry.copy? place = some copy)
    (stamped : node.stamp? = some copy.stamp) :
    node.stamp?.bind (registry.current? place) = some copy := by
  rw [stamped, Option.bind_some]
  exact current_eq_some.2 ⟨held, rfl⟩

theorem offered_kept {node : Node} {copy : Copy} (shown : files.status place = .ok node)
    (held : registry.copy? place = some copy) (stamped : node.stamp? = some copy.stamp) :
    registry.offered? files place = some copy := by
  simp only [offered?, shown, Except.toOption, Option.bind_some]
  exact current_kept held stamped

/-- A copy with the stamp that is shown is handed out, whatever stands there. -/
theorem load_at_kept {node : Node} {copy : Copy} (shown : files.status place = .ok node)
    (held : registry.copy? place = some copy) (stamped : node.stamp? = some copy.stamp) :
    registry.loadAt files place = (.ok (.kept copy.catalog copy.number), registry) := by
  unfold loadAt
  simp only [shown, current_kept held stamped]

/-- No copy is handed out at a location, no schema is built there, and the reason for that cannot be
written. -/
structure Untellable (registry : Registry) (files : Files) (place : Location) : Prop where
  unoffered : registry.offered? files place = none
  reason : ∃ reason, built files place = .error reason ∧ reason.isWhole = false

/-- Only what is written in a file can keep a load from being answered: an error of the system is
always told. -/
theorem Untellable.file (untellable : Untellable registry files place) :
    ∃ content modified, files.status place = .ok (.file content modified) ∧
      ∃ reason, Schema.load (.ofPath (place : Absolute).text) content = .error reason ∧
        reason.isWhole = false := by
  obtain ⟨_, reason, failure, torn⟩ := untellable
  unfold built at failure
  split at failure
  · obtain rfl := Except.error.inj failure
    rw [Text.Wide.whole_of] at torn
    cases torn
  · exact ⟨_, _, ‹_›, reason, failure, torn⟩
  · obtain rfl := Except.error.inj failure
    rw [Text.Wide.whole_of] at torn
    cases torn

/-- Why a file is not a schema in the schema language can always be told. -/
theorem Untellable.not_definition (untellable : Untellable registry files place) :
    Format.ofPath (place : Absolute).text ≠ .definition := by
  obtain ⟨_, _, _, reason, failure, torn⟩ := untellable.file
  intro definition
  rw [definition] at failure
  rw [definition_reason_whole failure] at torn
  cases torn

/-- A load has no answer exactly where it fails for a reason that cannot be written. -/
theorem load_at_error_iff {faults : List Wire.Fault} {after : Registry} :
    registry.loadAt files place = (.error faults, after) ↔
      Untellable registry files place ∧ faults = Loaded.untold ∧ after = registry := by
  have step := load_at_step registry files place
  generalize registry.loadAt files place = outcome at step
  cases step with
  | kept shown held stamped =>
      constructor
      · rintro ⟨⟩
      · rintro ⟨⟨unoffered, _⟩, _⟩
        rw [offered_kept shown held stamped] at unoffered
        cases unoffered
  | fresh _ succeeded =>
      constructor
      · rintro ⟨⟩
      · rintro ⟨⟨_, reason, failure, _⟩, _⟩
        rw [succeeded] at failure
        cases failure
  | failed failure unoffered =>
      rw [Prod.mk.injEq, Loaded.failing_error_iff]
      constructor
      · rintro ⟨⟨torn, told⟩, rfl⟩
        exact ⟨⟨unoffered, _, failure, torn⟩, told, rfl⟩
      · rintro ⟨⟨_, reason, failed, torn⟩, told, rfl⟩
        rw [failure] at failed
        cases failed
        exact ⟨⟨torn, told⟩, rfl⟩

theorem failing_low {reason : Text.Wide} {loaded : Loaded}
    (told : Loaded.failing reason = .ok loaded) : ∃ text, loaded = .failed text := by
  unfold Loaded.failing at told
  cases text : reason.plain? with
  | none => simp [text] at told
  | some text =>
      simp only [text, Except.ok.injEq] at told
      exact ⟨_, told.symm⟩

/-- After a load that succeeded, one more load at the same location finds its schema. -/
theorem load_at_again {loaded : Loaded} {after : Registry}
    (answered : registry.loadAt files place = (.ok loaded, after))
    (succeeded : loaded.confidence = .high) :
    ∃ number, loaded.copy? = some number ∧
      after.loadAt files place = (.ok (.kept loaded.catalog number), after) := by
  have step := load_at_step registry files place
  generalize registry.loadAt files place = outcome at step answered
  cases step with
  | failed =>
      obtain ⟨told, _⟩ := Prod.mk.inj answered
      obtain ⟨text, rfl⟩ := failing_low told
      cases succeeded
  | @kept node copy shown held stamped =>
      cases answered
      exact ⟨copy.number, rfl, load_at_kept shown held stamped⟩
  | @fresh content modified catalog shown built =>
      cases answered
      refine ⟨registry.made, rfl, ?_⟩
      exact load_at_kept shown (copy_of_keep catalog modified content.length) rfl

/-! ### By a path -/

theorem load_at (resolved : files.resolveLenient directory path.toList = .ok place) :
    registry.load files directory path = registry.loadAt files place := by
  unfold load
  rw [resolved]

theorem load_unresolved {unresolved : Files.Unresolved}
    (failed : files.resolveLenient directory path.toList = .error unresolved) :
    registry.load files directory path = (.ok (.failed unresolved.message), registry) := by
  unfold load
  rw [failed, ← Loaded.failing_of]

/-- A load either fails and leaves the registry as it is, or comes to a location. -/
theorem load_cases (registry : Registry) (files : Files) (directory : Location) (path : String) :
    (∃ reason, registry.load files directory path = (.ok (.failed reason), registry)) ∨
      ∃ place, files.resolveLenient directory path.toList = .ok place ∧
        LoadStep registry files place (registry.load files directory path) := by
  cases resolved : files.resolveLenient directory path.toList with
  | error unresolved => exact Or.inl ⟨_, load_unresolved resolved⟩
  | ok place =>
      refine Or.inr ⟨place, rfl, ?_⟩
      rw [load_at resolved]
      exact load_at_step registry files place

/-- A path leads to a location where a load has no answer. -/
def Unanswerable (registry : Registry) (files : Files) (directory : Location) (path : String) :
    Prop :=
  ∃ place, files.resolveLenient directory path.toList = .ok place ∧
    Untellable registry files place

theorem load_error_iff {faults : List Wire.Fault} {after : Registry} :
    registry.load files directory path = (.error faults, after) ↔
      Unanswerable registry files directory path ∧ faults = Loaded.untold ∧ after = registry := by
  cases resolved : files.resolveLenient directory path.toList with
  | error unresolved =>
      rw [load_unresolved resolved]
      simp [Unanswerable, resolved]
  | ok place =>
      rw [load_at resolved, load_at_error_iff]
      simp [Unanswerable, resolved]

theorem load_answered_iff :
    (∃ loaded, (registry.load files directory path).1 = .ok loaded) ↔
      ¬Unanswerable registry files directory path := by
  constructor
  · rintro ⟨loaded, answered⟩ unanswerable
    rw [load_error_iff.2 ⟨unanswerable, rfl, rfl⟩] at answered
    cases answered
  · intro answerable
    cases outcome : registry.load files directory path with
    | mk answer after =>
        cases answer with
        | ok loaded => exact ⟨loaded, rfl⟩
        | error faults => exact absurd (load_error_iff.1 outcome).1 answerable

theorem load_definition_answered
    (resolved : files.resolveLenient directory path.toList = .ok place)
    (definition : Format.ofPath (place : Absolute).text = .definition) :
    ∃ loaded, (registry.load files directory path).1 = .ok loaded := by
  refine load_answered_iff.2 ?_
  rintro ⟨other, led, untellable⟩
  obtain rfl : place = other := Except.ok.inj (resolved.symm.trans led)
  exact untellable.not_definition definition

/-- The placeholder is named here and not computed. -/
theorem failed_catalog (reason : String) : (Loaded.failed reason).catalog = placeholder := by
  simp only [Loaded.failed]

/-- What is answered by a load that failed. -/
structure Failed (loaded : Loaded) : Prop where
  catalog : loaded.catalog = placeholder
  confidence : loaded.confidence = .low
  warned : ∃ warning, loaded.warnings = [warning] ∧ warning.code = "SCHEMA_LOAD_ERROR"

theorem failed_failed (reason : String) : Failed (.failed reason) :=
  ⟨failed_catalog reason, rfl, loadWarning reason, rfl, rfl⟩

/-- An answer is trusted and comes without a warning, or it says that the load failed, which then
left the registry as it was. -/
theorem load_answer {loaded : Loaded} {after : Registry}
    (answered : registry.load files directory path = (.ok loaded, after)) :
    (loaded.confidence = .high ∧ loaded.warnings = []) ∨ (Failed loaded ∧ after = registry) := by
  rcases load_cases registry files directory path with ⟨reason, outcome⟩ | ⟨place, _, step⟩
  · obtain ⟨told, rfl⟩ := Prod.mk.inj (outcome.symm.trans answered)
    rw [← Except.ok.inj told]
    exact Or.inr ⟨failed_failed reason, rfl⟩
  · generalize registry.load files directory path = outcome at step answered
    cases step with
    | kept | fresh =>
        cases answered
        exact Or.inl ⟨rfl, rfl⟩
    | failed =>
        obtain ⟨told, rfl⟩ := Prod.mk.inj answered
        obtain ⟨text, rfl⟩ := failing_low told
        exact Or.inr ⟨failed_failed text, rfl⟩

/-! ### Loads one after another -/

/-- What a load says of a location: what the copy for it says, or else what is built there. -/
theorem load_at_told (registry : Registry) (files : Files) (place : Location) :
    (registry.loadAt files place).1.map Loaded.verdict =
      Verdict.ofBuilt (match registry.offered? files place with
        | some copy => .ok copy.catalog
        | none => built files place) := by
  unfold loadAt offered? built
  cases files.status (place : Path.Absolute) with
  | error fault => simp only [Except.toOption, Option.bind_none, Verdict.ofBuilt]
  | ok node =>
      simp only [Except.toOption, Option.bind_some]
      cases node.stamp?.bind (registry.current? place) with
      | some copy => simp only [Verdict.ofBuilt, Except.map, Loaded.verdict, Loaded.kept]
      | none =>
          cases node with
          | directory | link => simp only [Verdict.ofBuilt]
          | file content modified =>
              dsimp only
              cases Schema.load (.ofPath (place : Path.Absolute).text) content with
              | error reason => simp only [Verdict.ofBuilt]
              | ok catalog => simp only [Verdict.ofBuilt, Except.map, Loaded.verdict, Loaded.fresh]

theorem copy_elsewhere {place other : Location} (differs : place ≠ other) (catalog : Catalog)
    (modified : Int) (size : Nat) :
    (registry.keep other catalog modified size).copy? place = registry.copy? place := by
  have elsewhere : (place == other) = false := beq_eq_false_iff_ne.2 differs
  simp only [copy?, keep, List.lookup_cons, elsewhere, lookup_without _ differs]

/-- A load at some location changes nothing in what a load at any location says. -/
theorem load_at_stays (registry : Registry) (files : Files) (other place : Location) :
    ((registry.loadAt files other).2.loadAt files place).1.map Loaded.verdict =
      (registry.loadAt files place).1.map Loaded.verdict := by
  have step := load_at_step registry files other
  generalize outcome : registry.loadAt files other = result at step
  cases step with
  | kept | failed => rfl
  | @fresh content modified catalog shown succeeded =>
      dsimp only
      by_cases here : place = other
      · subst here
        have held : (registry.keep place catalog modified content.length).copy? place = _ :=
          copy_of_keep catalog modified content.length
        have offered := offered_kept shown held rfl
        rw [load_at_told, offered, outcome]
        rfl
      · have same : (registry.keep other catalog modified content.length).offered? files place =
            registry.offered? files place := by
          unfold offered? current?
          rw [copy_elsewhere here]
        rw [load_at_told, load_at_told, same]

theorem load_stays (registry : Registry) (files : Files) (directory : Location)
    (other path : String) :
    ((registry.load files directory other).2.load files directory path).1.map Loaded.verdict =
      (registry.load files directory path).1.map Loaded.verdict := by
  cases led : files.resolveLenient directory other.toList with
  | error unresolved => rw [load_unresolved led]
  | ok here =>
      cases resolved : files.resolveLenient directory path.toList with
      | error unresolved => rw [load_unresolved resolved, load_unresolved resolved]
      | ok place =>
          rw [load_at led, load_at resolved, load_at resolved]
          exact load_at_stays registry files here place

theorem load_same {other : String}
    (same : files.resolveLenient directory other.toList =
      files.resolveLenient directory path.toList) :
    registry.load files directory other = registry.load files directory path := by
  unfold load
  rw [same]

/-! ### The law of loads -/

/-- What holds of every load. It is answered, unless it fails for a reason that cannot be written,
which never happens to a file that is read in the schema language alone. It succeeds without a
warning or fails with one; all that it may change is the copy of its own location, which is shared by
all paths that lead there. -/
structure LoadLaw (registry : Registry) (files : Files) (directory : Location) (path : String) :
    Prop where
  answered : (∃ loaded, (registry.load files directory path).1 = .ok loaded) ↔
    ¬Unanswerable registry files directory path
  definition : ∀ place, files.resolveLenient directory path.toList = .ok place →
    Format.ofPath (place : Absolute).text = .definition →
      ∃ loaded, (registry.load files directory path).1 = .ok loaded
  refused : ∀ faults after, registry.load files directory path = (.error faults, after) →
    faults = Loaded.untold ∧ after = registry
  told : ∀ loaded after, registry.load files directory path = (.ok loaded, after) →
    (loaded.confidence = .high ∧ loaded.warnings = []) ∨ (Failed loaded ∧ after = registry)
  elsewhere : ∀ place copy, files.resolveLenient directory path.toList ≠ .ok place →
    ((place, copy) ∈ (registry.load files directory path).2.copies ↔
      (place, copy) ∈ registry.copies)
  shared : ∀ other,
    files.resolveLenient directory other.toList = files.resolveLenient directory path.toList →
      registry.cached files directory other = registry.cached files directory path ∧
      ∀ loaded after, registry.load files directory path = (.ok loaded, after) →
        loaded.confidence = .high →
          ∃ number, loaded.copy? = some number ∧
            after.load files directory other = (.ok (.kept loaded.catalog number), after)

theorem load_elsewhere {copy : Copy}
    (differs : files.resolveLenient directory path.toList ≠ .ok place) :
    (place, copy) ∈ (registry.load files directory path).2.copies ↔
      (place, copy) ∈ registry.copies := by
  rcases load_cases registry files directory path with ⟨reason, outcome⟩ | ⟨here, resolved, step⟩
  · rw [outcome]
  · have notHere : place ≠ here := by
      rintro rfl
      exact differs resolved
    generalize registry.load files directory path = outcome at step
    cases step with
    | kept | failed => rfl
    | fresh => simp [mem_keep, notHere]

/-- A load by another path to the same location, right after one that succeeded, finds its schema. -/
theorem load_again {other : String} {loaded : Loaded} {after : Registry}
    (same : files.resolveLenient directory other.toList =
      files.resolveLenient directory path.toList)
    (answered : registry.load files directory path = (.ok loaded, after))
    (succeeded : loaded.confidence = .high) :
    ∃ number, loaded.copy? = some number ∧
      after.load files directory other = (.ok (.kept loaded.catalog number), after) := by
  cases resolved : files.resolveLenient directory path.toList with
  | error unresolved =>
      rw [load_unresolved resolved] at answered
      obtain ⟨told, rfl⟩ := Prod.mk.inj answered
      rw [← Except.ok.inj told] at succeeded
      cases succeeded
  | ok place =>
      rw [load_at resolved] at answered
      rw [load_at (same.trans resolved)]
      exact load_at_again answered succeeded

theorem load_law (registry : Registry) (files : Files) (directory : Location) (path : String) :
    LoadLaw registry files directory path where
  answered := load_answered_iff
  definition _ := load_definition_answered
  refused _ _ refused := (load_error_iff.1 refused).2
  told _ _ answered := load_answer answered
  elsewhere _ _ differs := load_elsewhere differs
  shared other same := ⟨by rw [cached, cached, same], fun _ _ => load_again same⟩

end StorefrontSurvey.Schema.Registry
