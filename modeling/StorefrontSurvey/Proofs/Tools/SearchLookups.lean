import Mathlib.Logic.Relation
import StorefrontSurvey.Proofs.Schema.Searches
import StorefrontSurvey.Proofs.Tools.FieldLookups
/-!
Searches and the lookups after them. Lookups keep copies, but a file that stays as it is says the
same after any number of them, so a name that a search lists is still known when it is looked up.
-/
namespace StorefrontSurvey.Tools

open StorefrontSurvey.Path (Location)
open Wire (Envelope)
open Schema (Registry Loaded Catalog SearchLaw)

variable {files : Files} {directory : Location} {config : Config} {registry later : Registry}
  {lookup : Lookup} {path text name : String} {loaded : Loaded}

/-! ### Runs of lookups -/

/-- A lookup of anything takes one registry to another. -/
def LooksUp (files : Files) (directory : Location) (before after : Registry) : Prop :=
  ∃ config lookup, after = (lookupSchema files directory config before lookup).2

/-- A registry after any number of lookups. -/
def AfterLookups (files : Files) (directory : Location) : Registry → Registry → Prop :=
  Relation.ReflTransGen (LooksUp files directory)

theorem look_up_stays {before after : Registry} (step : LooksUp files directory before after)
    (path : String) :
    (after.load files directory path).1.map Loaded.verdict =
      (before.load files directory path).1.map Loaded.verdict := by
  obtain ⟨config, lookup, rfl⟩ := step
  rcases lookup_cases files directory config lookup with
    ⟨outcome, same⟩ | ⟨other, question, _, _, loads⟩
  · rw [same]
  · rw [loads]
    exact Registry.load_stays before files directory other path

theorem lookups_stay (run : AfterLookups files directory registry later) (path : String) :
    (later.load files directory path).1.map Loaded.verdict =
      (registry.load files directory path).1.map Loaded.verdict := by
  induction run with
  | refl => rfl
  | tail _ step ih => rw [look_up_stays step, ih]

/-! ### Types that are known -/

/-- An answer that a type is known: it is described, or said not to be an object type. -/
def Known (envelope : Envelope) : Prop :=
  ∀ f, envelope = .failure f → f.problem.code = "NOT_OBJECT_TYPE"

theorem type_known (known : (loaded.catalog.type? name).isSome = true) :
    Known (typeEnvelope loaded name) := by
  obtain ⟨t, found⟩ := Option.isSome_iff_exists.1 known
  unfold typeEnvelope
  rw [found]
  dsimp only
  split_ifs
  · intro f failed
    cases failed
  · rintro f ⟨⟩
    rfl

/-- A search that succeeds tells what it finds in the schema that is loaded. -/
theorem search_answered {s : Wire.Success} (asked : lookup.questions = [.search text])
    (answered : (lookupSchema files directory config registry lookup).1 = .ok (.success s)) :
    ∃ path loaded, schemaPath? files config lookup = .ok (some path) ∧
      (registry.load files directory path).1 = .ok loaded ∧
      s = toldBy loaded (Wire.write (⟨loaded.catalog.search text⟩ : Wire.SearchAnswer)) := by
  have step := lookup_step files directory config registry lookup
  generalize (lookupSchema files directory config registry lookup).1 = outcome at step answered
  cases step with
  | early | handedOn => cases answered
  | @asked path question found single =>
      obtain rfl : .search text = question := List.singleton_inj.1 (asked.symm.trans single)
      cases loads : (registry.load files directory path).1 with
      | error faults =>
          rw [loads] at answered
          cases answered
      | ok loaded =>
          rw [loads] at answered
          exact ⟨path, loaded, found, loads, (Envelope.success.inj (Except.ok.inj answered)).symm⟩

/-- What a lookup of a type says after others, of a schema that was loaded before them. -/
theorem type_looked_up (loads : (registry.load files directory path).1 = .ok loaded)
    (run : AfterLookups files directory registry later)
    (asked : lookup.questions = [.type name]) {otherPath : String}
    (found : schemaPath? files config lookup = .ok (some otherPath))
    (same : files.resolveLenient directory otherPath.toList =
      files.resolveLenient directory path.toList) :
    (lookupSchema files directory config later lookup).1 = .ok (typeEnvelope loaded name) := by
  have stays := lookups_stay run path
  rw [loads] at stays
  rw [lookup_asked found asked, Registry.load_same same]
  exact outcome_verdict stays (.type name)

/-! ### Agreement -/

/-- A search that succeeds tells what is found in the schema that is loaded, and each name of that
is known to a lookup of a type in the same file, whatever else is looked up in between. -/
def SearchedKnown (files : Files) (directory : Location) (config : Config) (registry : Registry)
    (lookup : Lookup) (text : String) : Prop :=
  ∀ s, lookup.questions = [.search text] →
    (lookupSchema files directory config registry lookup).1 = .ok (.success s) →
      ∃ path loaded, schemaPath? files config lookup = .ok (some path) ∧
        (registry.load files directory path).1 = .ok loaded ∧
        s = toldBy loaded (Wire.write (⟨loaded.catalog.search text⟩ : Wire.SearchAnswer)) ∧
        ∀ name ∈ loaded.catalog.search text, ∀ later otherConfig other otherPath,
          AfterLookups files directory registry later →
          other.questions = [.type name] →
          schemaPath? files otherConfig other = .ok (some otherPath) →
          files.resolveLenient directory otherPath.toList =
            files.resolveLenient directory path.toList →
            ∃ envelope, (lookupSchema files directory otherConfig later other).1 = .ok envelope ∧
              Known envelope

/-- Searches and lookups agree in every schema, and so do their answers: what a search lists is
never said to be missing. -/
theorem searches_agree_with_lookups :
    (∀ catalog : Catalog, SearchLaw catalog) ∧
      ∀ files directory config registry lookup text,
        SearchedKnown files directory config registry lookup text := by
  refine ⟨Schema.search_law, ?_⟩
  intro files directory config registry lookup text s asked answered
  obtain ⟨path, loaded, found, loads, same⟩ := search_answered asked answered
  refine ⟨path, loaded, found, loads, same, ?_⟩
  intro name listed later otherConfig other otherPath run typed otherFound together
  have known := (Catalog.mem_search_iff.1 listed).1
  exact ⟨_, type_looked_up loads run typed otherFound together, type_known known⟩

def orderSchema : String := "type Query \x7b orderOf: Order \x7d type Order \x7b id: ID \x7d"

/-- A search in another case lists a type, which is known when it is looked up by another path. -/
theorem found_order_known :
    let files : Files := ⟨[([['s', '.', 'g', 'q', 'l']], .file orderSchema.toUTF8.data.toList 1)]⟩
    let config : Config := ⟨"/", some "/s.gql", "", []⟩
    let search : Lookup := ⟨none, none, none, some "oRd"⟩
    let typed : Lookup := ⟨some "./s.gql", some "Order", none, none⟩
    let after := (lookupSchema files [] config .empty search).2
    ∃ loaded envelope, (Registry.empty.load files [] "/s.gql").1 = .ok loaded ∧
      "Order" ∈ loaded.catalog.search "oRd" ∧
      (lookupSchema files [] config after typed).1 = .ok envelope ∧ Known envelope := by
  intro files config search typed after
  have typedFound : schemaPath? files config typed = .ok (some "/s.gql") := by
    decide +kernel
  have evaluated : ((Registry.empty.load files [] "/s.gql").1.toOption.map fun loaded =>
      loaded.catalog.search "oRd") = some ["Order"] := by decide +kernel
  obtain ⟨loaded, answer, names⟩ := Option.map_eq_some_iff.1 evaluated
  have loads : (Registry.empty.load files [] "/s.gql").1 = .ok loaded := by
    cases outcome : (Registry.empty.load files [] "/s.gql").1 with
    | error faults => simp [outcome, Except.toOption] at answer
    | ok other => simpa [outcome, Except.toOption] using answer
  have found : schemaPath? files config search = .ok (some "/s.gql") := rfl
  have answered : (lookupSchema files [] config .empty search).1 =
      (Question.search "oRd").outcome (Registry.empty.load files [] "/s.gql").1 :=
    lookup_asked found rfl
  rw [loads] at answered
  obtain ⟨path, same, led, again, _, known⟩ :=
    searches_agree_with_lookups.2 files [] config .empty search "oRd" _ rfl answered
  obtain rfl : "/s.gql" = path := Option.some.inj (Except.ok.inj (found.symm.trans led))
  obtain rfl : loaded = same := Except.ok.inj (loads.symm.trans again)
  have listed : "Order" ∈ loaded.catalog.search "oRd" := by simp [names]
  obtain ⟨envelope, told, kept⟩ := known "Order" listed after config typed "/s.gql"
    (.single ⟨config, search, rfl⟩) rfl typedFound rfl
  exact ⟨loaded, envelope, loads, listed, told, kept⟩

end StorefrontSurvey.Tools
