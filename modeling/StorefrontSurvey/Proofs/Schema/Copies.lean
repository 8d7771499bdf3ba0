import StorefrontSurvey.Proofs.Files.Standing
import StorefrontSurvey.Schema.Registry
/-!
Copies in a registry against the files that they were built from. A load either hands out a copy
whose stamp is shown again or builds the schema anew, so as long as a stamp tells what a file holds,
no one can tell from a schema that there is a registry.
-/
namespace StorefrontSurvey.Schema

open StorefrontSurvey.Path (Location)
open StorefrontSurvey.Files (Stamp Node)

/-- What a load says of a schema, apart from where it was taken from. -/
structure Verdict where
  catalog : Catalog
  confidence : Confidence
  warnings : List Warning

def Loaded.verdict (loaded : Loaded) : Verdict :=
  ⟨loaded.catalog, loaded.confidence, loaded.warnings⟩

/-- The schema of what stands at a location, built anew. -/
def built (files : Files) (place : Location) : Except Text.Wide Catalog :=
  match files.status place with
  | .error fault => .error fault.message
  | .ok (.file content _) => load (.ofPath (place : Path.Absolute).text) content
  | .ok _ => .error (Files.Fault.system .isDirectory (place : Path.Absolute).text).message

def Verdict.ofBuilt : Except Text.Wide Catalog → Except (List Wire.Fault) Verdict
  | .ok catalog => .ok ⟨catalog, .high, []⟩
  | .error reason => (Loaded.failing reason).map Loaded.verdict

theorem fresh_verdict (catalog : Catalog) (copy : Nat) :
    .ok (Loaded.fresh catalog copy).verdict = Verdict.ofBuilt (.ok catalog) := rfl

theorem kept_verdict (catalog : Catalog) (copy : Nat) :
    .ok (Loaded.kept catalog copy).verdict = Verdict.ofBuilt (.ok catalog) := rfl

def Copy.stamp (copy : Copy) : Stamp := ⟨copy.modified, copy.size⟩

theorem lookup_without {Key Value : Type} [BEq Key] [LawfulBEq Key] [DecidableEq Key]
    (entries : List (Key × Value)) {key other : Key} (differs : other ≠ key) :
    (entries.filter fun entry => entry.1 ≠ key).lookup other = entries.lookup other := by
  induction entries with
  | nil => rfl
  | cons first rest ih =>
      obtain ⟨here, value⟩ := first
      by_cases same : here = key
      · have skipped : (other == here) = false := by
          rw [same]
          exact beq_eq_false_iff_ne.2 differs
        rw [List.lookup_cons, skipped, ← ih]
        simp [same]
      · rw [List.lookup_cons, ← ih]
        simp [same, List.lookup_cons]

namespace Registry

variable {registry : Registry} {files others : Files} {place : Location}

theorem current_eq_some {stamp : Stamp} {copy : Copy} :
    registry.current? place stamp = some copy ↔
      registry.copy? place = some copy ∧ copy.stamp = stamp := by
  rw [current?, Option.filter_eq_some_iff, decide_eq_true_iff]
  constructor
  · rintro ⟨held, modified, size⟩
    exact ⟨held, by rw [Copy.stamp, modified, size]⟩
  · rintro ⟨held, rfl⟩
    exact ⟨held, rfl, rfl⟩

/-- The copy that a load at a location hands out: the one with the stamp that is shown. -/
def offered? (registry : Registry) (files : Files) (place : Location) : Option Copy :=
  (files.status place).toOption.bind fun node => node.stamp?.bind (registry.current? place)

/-- A load does one of three things: it hands out the copy that has the stamp shown, it builds a
schema and keeps it, or it fails and leaves the registry as it is. -/
inductive LoadStep (registry : Registry) (files : Files) (place : Location) :
    Except (List Wire.Fault) Loaded × Registry → Prop
  | kept {node : Node} {copy : Copy} (shown : files.status place = .ok node)
      (held : registry.copy? place = some copy) (stamped : node.stamp? = some copy.stamp) :
      LoadStep registry files place (.ok (.kept copy.catalog copy.number), registry)
  | fresh {content : List UInt8} {modified : Int} {catalog : Catalog}
      (shown : files.status place = .ok (.file content modified))
      (succeeded : built files place = .ok catalog) :
      LoadStep registry files place (.ok (.fresh catalog registry.made),
        registry.keep place catalog modified content.length)
  | failed {reason : Text.Wide} (failure : built files place = .error reason)
      (none : registry.offered? files place = none) :
      LoadStep registry files place (Loaded.failing reason, registry)

theorem load_at_step (registry : Registry) (files : Files) (place : Location) :
    LoadStep registry files place (registry.loadAt files place) := by
  unfold loadAt
  cases shown : files.status (place : Path.Absolute) with
  | error fault =>
      exact .failed (by simp [built, shown]) (by simp [offered?, shown, Except.toOption])
  | ok node =>
      cases current : node.stamp?.bind (registry.current? place) with
      | some copy =>
          obtain ⟨stamp, stamped, found⟩ := Option.bind_eq_some_iff.1 current
          obtain ⟨held, rfl⟩ := current_eq_some.1 found
          simp only [current]
          exact .kept shown held stamped
      | none =>
          have none : registry.offered? files place = none := by
            simpa [offered?, shown, Except.toOption] using current
          cases node with
          | directory stamp? =>
              simp only [current]
              exact .failed (by simp [built, shown]) none
          | link target =>
              simp only [current]
              exact .failed (by simp [built, shown]) none
          | file content modified =>
              simp only [current]
              cases schema : Schema.load (.ofPath (place : Path.Absolute).text) content with
              | error reason => exact .failed (by simp [built, shown, schema]) none
              | ok catalog => exact .fresh shown (by simp [built, shown, schema])

theorem load_at_status (registry : Registry)
    (same : files.status place = others.status place) :
    registry.loadAt files place = registry.loadAt others place := by
  unfold loadAt
  rw [same]

theorem built_status (same : files.status place = others.status place) :
    built files place = built others place := by
  unfold built
  rw [same]

/-! ### What is held -/

theorem copy_keep {catalog : Catalog} {modified : Int} {size : Nat} {other : Location}
    {copy : Copy}
    (held : (registry.keep place catalog modified size).copy? other = some copy) :
    (other = place ∧ copy.catalog = catalog ∧ copy.stamp = ⟨modified, size⟩) ∨
      registry.copy? other = some copy := by
  by_cases here : other = place
  · simp only [copy?, keep, here, List.lookup_cons, beq_self_eq_true] at held
    cases held
    exact Or.inl ⟨here, rfl, rfl⟩
  · have elsewhere : (other == place) = false := beq_eq_false_iff_ne.2 here
    simp only [copy?, keep, List.lookup_cons, elsewhere, lookup_without _ here] at held
    exact Or.inr held

/-- An entry that was not there before a load is at the location that was loaded, where something
stands. -/
theorem load_at_entry {entry : Location × Copy}
    (member : entry ∈ (registry.loadAt files place).2.copies) :
    entry ∈ registry.copies ∨ (entry.1 = place ∧ ∃ node, files.status place = .ok node) := by
  have step := load_at_step registry files place
  generalize registry.loadAt files place = outcome at step member
  cases step with
  | kept | failed => exact Or.inl member
  | fresh shown _ =>
      rcases List.mem_cons.1 member with new | old
      · exact Or.inr ⟨by rw [new], _, shown⟩
      · exact Or.inl (List.mem_filter.1 old).1

/-! ### Runs -/

/-- A location that a path is resolved to. -/
def IsCanonical (files : Files) (place : Location) : Prop :=
  ∃ directory path, files.resolveLenient directory path = .ok place

/-- In all of some moments, what a canonical location shows is told by its stamp. -/
def StampsTell (moments : List Files) : Prop :=
  ∀ earlier ∈ moments, ∀ later ∈ moments, ∀ place node other stamp,
    IsCanonical earlier place → IsCanonical later place →
    earlier.status (place : Path.Absolute) = .ok node →
    later.status (place : Path.Absolute) = .ok other →
    node.stamp? = some stamp → other.stamp? = some stamp → node = other

/-- It is enough that no two entries of the moments have one stamp and differ. -/
theorem stamps_tell_of_nodes {moments : List Files}
    (tell : ∀ earlier ∈ moments, ∀ later ∈ moments, ∀ entry ∈ earlier.nodes,
      ∀ other ∈ later.nodes, entry.2.stamp?.isSome = true →
        entry.2.stamp? = other.2.stamp? → entry.2 = other.2) : StampsTell moments := by
  intro earlier past later now place node other stamp _ _ was shown stamped otherStamped
  have entry {files : Files} {node : Node} (asked : files.status (place : Path.Absolute) = .ok node)
      (stamped : node.stamp? = some stamp) : ∃ key, (key, node) ∈ files.nodes := by
    obtain ⟨key, _, stands⟩ := Files.status_ok_iff.1 asked
    refine ⟨key, Files.node_listed ?_ stands⟩
    rintro rfl
    cases stands
    cases stamped
  obtain ⟨_, member⟩ := entry was stamped
  obtain ⟨_, otherMember⟩ := entry shown otherStamped
  exact tell earlier past later now _ member _ otherMember (by rw [stamped]; rfl)
    (stamped.trans otherStamped.symm)

/-- Each copy was built at one of some moments, from what its location showed then. -/
def Backed (moments : List Files) (registry : Registry) : Prop :=
  ∀ place copy, registry.copy? place = some copy → ∃ earlier ∈ moments, ∃ node,
    IsCanonical earlier place ∧ earlier.status (place : Path.Absolute) = .ok node ∧
      node.stamp? = some copy.stamp ∧ built earlier place = .ok copy.catalog

variable {moments : List Files}

theorem empty_backed (moments : List Files) : Backed moments .empty := by
  intro place copy held
  cases held

theorem load_at_backed (backed : Backed moments registry) (now : files ∈ moments)
    (canonical : IsCanonical files place) :
    Backed moments (registry.loadAt files place).2 := by
  have step := load_at_step registry files place
  generalize registry.loadAt files place = outcome at step
  cases step with
  | kept | failed => exact backed
  | @fresh content modified catalog shown succeeded =>
      intro other copy held
      rcases copy_keep held with ⟨rfl, schema, stamp⟩ | old
      · refine ⟨files, now, _, canonical, shown, ?_, ?_⟩
        · rw [stamp]
          rfl
        · rw [schema]
          exact succeeded
      · exact backed other copy old

/-- What is loaded at a location is what would be built there. -/
theorem load_at_verdict (backed : Backed moments registry) (tell : StampsTell moments)
    (now : files ∈ moments) (canonical : IsCanonical files place) :
    (registry.loadAt files place).1.map Loaded.verdict = Verdict.ofBuilt (built files place) := by
  have step := load_at_step registry files place
  generalize registry.loadAt files place = outcome at step
  cases step with
  | failed failure _ => rw [failure, Verdict.ofBuilt]
  | fresh _ succeeded => rw [succeeded, ← fresh_verdict, Except.map]
  | @kept node copy shown held stamped =>
      obtain ⟨earlier, past, before, was, wasShown, wasStamped, wasBuilt⟩ :=
        backed place copy held
      have same : before = node := tell earlier past files now place before node copy.stamp
        was canonical wasShown shown wasStamped stamped
      have unchanged : files.status (place : Path.Absolute) =
          earlier.status (place : Path.Absolute) := by
        rw [shown, wasShown, same]
      rw [built_status unchanged, wasBuilt, ← kept_verdict, Except.map]

end Registry

end StorefrontSurvey.Schema
