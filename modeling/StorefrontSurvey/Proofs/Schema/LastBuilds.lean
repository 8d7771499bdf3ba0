import StorefrontSurvey.Proofs.Schema.Loads
/-!
Runs of loads on one registry, with any change of the files in between. The registry holds, for each
location, what the last load to build a schema there made of it, and it holds nothing else.
-/
namespace StorefrontSurvey.Schema.Registry

open StorefrontSurvey.Path (Location Absolute)

variable {registry : Registry} {files : Files} {directory place : Location} {path : String}

theorem keep_distinct {catalog : Catalog} {modified : Int} {size : Nat}
    (distinct : (registry.copies.map Prod.fst).Nodup) :
    ((registry.keep place catalog modified size).copies.map Prod.fst).Nodup := by
  have others : ((registry.copies.filter fun entry => entry.1 ≠ place).map Prod.fst).Nodup :=
    distinct.sublist (List.filter_sublist.map Prod.fst)
  have absent : place ∉ (registry.copies.filter fun entry => entry.1 ≠ place).map Prod.fst := by
    simp
  exact List.nodup_cons.2 ⟨absent, others⟩

/-! ### Runs -/

/-- A load as it was asked for, and what came of it. -/
structure Load where
  files : Files
  path : String
  outcome : Except (List Wire.Fault) Loaded

/-- A load that built a schema for a location, and did not find one. -/
structure Load.Builds (load : Load) (directory place : Location) : Prop where
  resolved : load.files.resolveLenient directory load.path.toList = .ok place
  anew : ∃ loaded, load.outcome = .ok loaded ∧ loaded.confidence = .high ∧
    loaded.fromCache = false

/-- A copy says of a load at a location what it built, and by which path and stamp. -/
structure Records (copy : Copy) (load : Load) (place : Location) : Prop where
  schema : ∃ loaded, load.outcome = .ok loaded ∧ loaded.catalog = copy.catalog ∧
    loaded.copy? = some copy.number
  path : copy.path = (place : Absolute).text
  stamp : ∃ node, load.files.status place = .ok node ∧ node.stamp? = some copy.stamp
  source : built load.files place = .ok copy.catalog

/-- A copy records the last one of some loads, given with the latest first, that built a schema for a
location. -/
def RecordsLast (copy : Copy) (loads : List Load) (directory place : Location) : Prop :=
  ∃ later load earlier, loads = later ++ load :: earlier ∧
    (∀ other ∈ later, ¬other.Builds directory place) ∧ load.Builds directory place ∧
      Records copy load place

theorem records_last_nil {copy : Copy} : ¬RecordsLast copy [] directory place := by
  rintro ⟨later, load, earlier, split, _⟩
  simp at split

theorem records_last_builds {copy : Copy} {load : Load} {loads : List Load}
    (builds : load.Builds directory place) :
    RecordsLast copy (load :: loads) directory place ↔ Records copy load place := by
  constructor
  · rintro ⟨later, other, earlier, split, none, _, records⟩
    cases later with
    | nil =>
        rw [List.nil_append, List.cons.injEq] at split
        exact split.1 ▸ records
    | cons first more =>
        rw [List.cons_append, List.cons.injEq] at split
        exact absurd (split.1 ▸ builds) (none first (by simp))
  · exact fun records => ⟨[], load, loads, rfl, by simp, builds, records⟩

theorem records_last_other {copy : Copy} {load : Load} {loads : List Load}
    (other : ¬load.Builds directory place) :
    RecordsLast copy (load :: loads) directory place ↔
      RecordsLast copy loads directory place := by
  constructor
  · rintro ⟨later, last, earlier, split, none, builds, records⟩
    cases later with
    | nil =>
        rw [List.nil_append, List.cons.injEq] at split
        exact absurd (split.1 ▸ builds) other
    | cons first more =>
        rw [List.cons_append, List.cons.injEq] at split
        exact ⟨more, last, earlier, split.2, fun load member => none load (by simp [member]),
          builds, records⟩
  · rintro ⟨later, last, earlier, split, none, builds, records⟩
    refine ⟨load :: later, last, earlier, by rw [split, List.cons_append], ?_, builds, records⟩
    exact List.forall_mem_cons.2 ⟨other, none⟩

/-- What happens in a run. The files may become any others. -/
inductive Happening where
  | change (files : Files)
  | load (path : String)

structure Moment where
  files : Files
  registry : Registry
  /-- All loads so far, the latest one first. -/
  loads : List Load

namespace Moment

def start (files : Files) : Moment := ⟨files, .empty, []⟩

def step (directory : Location) (moment : Moment) : Happening → Moment
  | .change files => { moment with files }
  | .load path =>
    let (outcome, registry) := moment.registry.load moment.files directory path
    { moment with registry, loads := ⟨moment.files, path, outcome⟩ :: moment.loads }

def run (directory : Location) (moment : Moment) (happenings : List Happening) : Moment :=
  happenings.foldl (step directory) moment

/-- The entries of the registry are the records of the last builds: one for each location that a
schema was ever built for, and no other. -/
structure HoldsLastBuilds (moment : Moment) (directory : Location) : Prop where
  entries : ∀ place copy, (place, copy) ∈ moment.registry.copies ↔
    RecordsLast copy moment.loads directory place
  distinct : (moment.registry.copies.map Prod.fst).Nodup

theorem start_holds (files : Files) (directory : Location) :
    (start files).HoldsLastBuilds directory where
  entries place copy := by
    simp [start, Registry.empty, records_last_nil]
  distinct := List.nodup_nil

/-- A load that keeps a new copy is the last to build a schema for its location from then on. -/
theorem fresh_holds {moment : Moment} {content : List UInt8} {modified : Int} {catalog : Catalog}
    (holds : moment.HoldsLastBuilds directory)
    (resolved : moment.files.resolveLenient directory path.toList = .ok place)
    (shown : moment.files.status place = .ok (.file content modified))
    (succeeded : built moment.files place = .ok catalog) :
    HoldsLastBuilds ⟨moment.files, moment.registry.keep place catalog modified content.length,
      ⟨moment.files, path, .ok (.fresh catalog moment.registry.made)⟩ :: moment.loads⟩
      directory where
  entries other copy := by
    by_cases here : other = place
    · subst here
      rw [mem_keep, records_last_builds ⟨resolved, _, rfl, rfl, rfl⟩]
      constructor
      · rintro (⟨_, rfl⟩ | ⟨differs, _⟩)
        · exact ⟨⟨_, rfl, rfl, rfl⟩, rfl, ⟨_, shown, rfl⟩, succeeded⟩
        · exact absurd rfl differs
      · rintro ⟨⟨loaded, outcome, schema, number⟩, path, ⟨node, asked, stamped⟩, _⟩
        obtain ⟨copyCatalog, copyPath, copyModified, copySize, copyNumber⟩ := copy
        rw [shown] at asked
        cases asked
        cases stamped
        cases outcome
        cases number
        cases schema
        cases path
        exact Or.inl ⟨rfl, rfl⟩
    · rw [mem_keep, records_last_other, ← holds.entries]
      · simp [here]
      · rintro ⟨led, _, _⟩
        rw [resolved] at led
        exact here (Except.ok.inj led).symm
  distinct := keep_distinct holds.distinct

/-- A load that builds nothing changes no record. -/
theorem idle_holds {moment : Moment} {outcome : Except (List Wire.Fault) Loaded}
    (holds : moment.HoldsLastBuilds directory)
    (idle : ∀ loaded, outcome = .ok loaded →
      loaded.confidence = .low ∨ loaded.fromCache = true) :
    HoldsLastBuilds ⟨moment.files, moment.registry,
      ⟨moment.files, path, outcome⟩ :: moment.loads⟩ directory where
  entries place copy := by
    rw [records_last_other, ← holds.entries]
    rintro ⟨_, loaded, answered, succeeded, anew⟩
    rcases idle loaded answered with low | cached
    · rw [low] at succeeded
      cases succeeded
    · rw [cached] at anew
      cases anew
  distinct := holds.distinct

theorem failing_idle {reason : Text.Wide} {loaded : Loaded}
    (told : Loaded.failing reason = .ok loaded) :
    loaded.confidence = .low ∨ loaded.fromCache = true := by
  obtain ⟨text, rfl⟩ := failing_low told
  exact Or.inl rfl

theorem step_holds {moment : Moment} (holds : moment.HoldsLastBuilds directory)
    (happening : Happening) : (moment.step directory happening).HoldsLastBuilds directory := by
  cases happening with
  | change files => exact ⟨holds.entries, holds.distinct⟩
  | load path =>
      simp only [step]
      rcases load_cases moment.registry moment.files directory path with
        ⟨reason, outcome⟩ | ⟨place, resolved, step⟩
      · rw [outcome, ← Loaded.failing_of]
        exact idle_holds holds fun _ => failing_idle
      · generalize moment.registry.load moment.files directory path = outcome at step
        cases step with
        | kept => exact idle_holds holds fun _ same => Or.inr (by rw [← Except.ok.inj same]; rfl)
        | failed => exact idle_holds holds fun _ => failing_idle
        | fresh shown succeeded => exact fresh_holds holds resolved shown succeeded

theorem run_holds {moment : Moment} (holds : moment.HoldsLastBuilds directory)
    (happenings : List Happening) : (moment.run directory happenings).HoldsLastBuilds directory := by
  induction happenings generalizing moment with
  | nil => exact holds
  | cons happening rest ih => exact ih (step_holds holds happening)

/-- Whatever is loaded and however the files change, a new registry comes to hold exactly what the
last load to build a schema for a location made of it, and each load keeps to the law of loads. -/
theorem last_builds_held (files : Files) (directory : Location) (happenings : List Happening) :
    ((start files).run directory happenings).HoldsLastBuilds directory ∧
      ∀ path, LoadLaw ((start files).run directory happenings).registry
        ((start files).run directory happenings).files directory path :=
  ⟨run_holds (start_holds files directory) happenings, fun path => load_law _ _ directory path⟩

/-- An introspection result whose query type has half of a surrogate pair for a name. It is whole
text, for the half is written as an escape. -/
def tornName : String :=
  "\x7b\"__schema\":\x7b\"types\":[],\"queryType\":\x7b\"name\":\"\\ud800\"\x7d\x7d\x7d"

def tornFile : Files :=
  ⟨[([['s', '.', 'j', 's', 'o', 'n']], .file (tornName.toList.map fun c => c.toNat.toUInt8) 0)]⟩

/-- The reason of this failure names the type, so no warning can be made of it. -/
theorem torn_name_unanswered :
    ¬∃ loaded, ((start tornFile).registry.load tornFile [] "/s.json").1 = .ok loaded := by
  have none : ((start tornFile).registry.load tornFile [] "/s.json").1.toOption.isNone = true := by
    decide +kernel
  rintro ⟨loaded, answered⟩
  rw [answered] at none
  cases none

end Moment

end StorefrontSurvey.Schema.Registry
