import StorefrontSurvey.Proofs.Tools.Answers
/-!
What an envelope says of its own answer. An answer that was got in a lesser way carries a warning and
is not of high confidence; a lookup in the placeholder always says that the schema is missing. The
parts of an envelope are never such that a check would refuse them.
-/
namespace StorefrontSurvey.Wire

theorem read_confidence (confidence : Confidence) :
    (read (write confidence) : Reading Confidence) = .good confidence := by
  cases confidence <;> rfl

theorem read_message (message : Message) :
    (read (write message) : Reading Message) = .good message := by
  obtain ⟨text, text_ne⟩ := message
  exact dif_neg text_ne

variable {α : Type} [Wire α]

/-- A member that is found and can be read is read without regard to its way. -/
theorem required_good {members : List Json.Member} {key : Key} {name : String} {json : Json}
    {value : α} (found : key.find? members = some (name, json))
    (good : (read json : Reading α) = .good value) : required members key = .good value := by
  simp only [required, found, good, Reading.within]

theorem read_warning (warning : Warning) :
    (read (write warning) : Reading Warning) = .good warning := by
  obtain ⟨code, message, message_ne⟩ := warning
  let members : List Json.Member := [("code", .str code), ("message", .str message)]
  have coded : (required members "code" : Reading String) = .good code :=
    required_good rfl rfl
  have told : (required members "message" : Reading Message) = .good ⟨message, message_ne⟩ :=
    required_good (show Key.find? "message" members = some ("message", .str message) by
      simp [Key.find?, Json.lookup, members]) (read_message ⟨message, message_ne⟩)
  change Warning.of <$> required members "code" <*> required members "message" = _
  rw [coded, told]
  rfl

theorem read_problem (code : String) (message : Message) :
    (read (.obj [("code", .str code), ("message", write message)]) : Reading Problem) =
      .good ⟨code, message, .null⟩ := by
  let members : List Json.Member := [("code", .str code), ("message", write message)]
  have coded : (required members "code" : Reading String) = .good code :=
    required_good rfl rfl
  have told : (required members "message" : Reading Message) = .good message :=
    required_good (show Key.find? "message" members = some ("message", write message) by
      simp [Key.find?, Json.lookup, members]) (read_message message)
  have silent : (withDefault members "details" .null : Reading Json) = .good .null := by
    simp [withDefault, Key.find?, Json.lookup, members]
  change Problem.mk <$> required members "code" <*> required members "message" <*>
    withDefault members "details" .null = _
  rw [coded, told, silent]
  rfl

theorem check_warnings (warnings : List Warning) :
    checkWarnings (warnings.map write) = .good warnings := by
  induction warnings with
  | nil => rfl
  | cons warning rest ih =>
      rw [List.map_cons, checkWarnings, read_warning, Reading.andThen, ih]
      rfl

/-- An envelope that is built once more from what it writes, all of it checked. -/
def rebuilt : Envelope → Reading Envelope
  | .success s => checkSuccess s.data (write s.confidence) ((s.warnings.getD []).map write)
  | .failure f =>
    checkFailure (.str f.problem.code) (write f.problem.message) (some (write f.confidence))
      ((f.warnings.getD []).map write)

theorem some_warnings_get (warnings : List Warning) :
    (someWarnings warnings).getD [] = warnings := by
  cases warnings <;> rfl

theorem some_warnings_none_iff {warnings : List Warning} :
    someWarnings warnings = none ↔ warnings = [] := by
  cases warnings <;> simp [someWarnings]

/-- What every envelope keeps to: trust and warnings agree, and nothing is said without a text. -/
structure Candid (envelope : Envelope) : Prop where
  trusted : ∀ s, envelope = .success s → (s.confidence = .high ↔ s.warnings = none)
  explained : ∀ f, envelope = .failure f → f.problem.message.text ≠ ""
  told : ∀ warning ∈ envelope.warnings, warning.message ≠ ""
  valid : rebuilt envelope = .good envelope

theorem candid_failure (code : String) (message : Message) (confidence : Confidence)
    (warnings : List Warning) : Candid (failure code message confidence warnings) where
  trusted s same := by cases same
  explained f _ := f.problem.message.text_ne
  told warning _ := warning.message_ne
  valid := by
    simp only [rebuilt, failure, some_warnings_get, checkFailure, check_warnings, read_problem,
      read_confidence, Reading.andThen, Reading.within, Reading.map]

theorem candid_success (data : Json) {confidence : Confidence} {warnings : List Warning}
    (trusted : confidence = .high ↔ warnings = []) :
    Candid (success data confidence warnings) where
  trusted s same := by
    obtain rfl := Envelope.success.inj same
    exact trusted.trans some_warnings_none_iff.symm
  explained f same := by cases same
  told warning _ := warning.message_ne
  valid := by
    simp only [rebuilt, success, some_warnings_get, checkSuccess, check_warnings,
      read_confidence, Reading.andThen, Reading.within, Reading.map]

end StorefrontSurvey.Wire

namespace StorefrontSurvey.Tools

open StorefrontSurvey.Path (Location)
open Wire (Envelope Candid candid_failure candid_success)
open Schema (Registry Loaded built)

variable {files : Files} {directory : Location} {config : Config} {registry : Registry}
  {lookup : Lookup} {rootPath file : String} {envelope : Envelope}

/-- What is refused is answered only if it is an escape. -/
theorem refused_candid {refusal : Sandbox.Refusal} (answered : refused refusal = .ok envelope) :
    ∃ escape, envelope = escapeFailure escape := by
  cases refusal with
  | escaped escape => exact ⟨escape, (Except.ok.inj answered).symm⟩
  | root | rootLoop | nullCharacter => cases answered

/-! ### Routes -/

/-- What a listing keeps to: trust and warnings agree, and without routes it is not trusted. -/
structure FairListing (listing : Routes.Listing) : Prop where
  trusted : listing.confidence = .high ↔ listing.warnings = []
  empty : listing.routes = [] → listing.confidence = .low

theorem choose_fair (tree : Routes.Finding) (text : Unit → Routes.Finding) :
    FairListing (Routes.choose tree text) := by
  unfold Routes.choose
  split
  · exact ⟨by simp, fun _ => rfl⟩
  · split_ifs with empty short
    · exact ⟨by simp, fun _ => rfl⟩
    · exact ⟨by simp, fun none => absurd none (by simpa using empty)⟩
    · exact ⟨by simp, fun none => absurd none (by simpa using empty)⟩

theorem list_file_fair {parser : Script.Parser} {listing : Routes.Listing}
    (listed : Routes.listFileBy parser files rootPath file = .ok listing) :
    FairListing listing := by
  unfold Routes.listFileBy at listed
  split at listed
  case h_1 =>
    obtain rfl := Except.ok.inj listed
    exact choose_fair _ _
  case h_2 =>
    obtain rfl := Except.ok.inj listed
    exact ⟨by simp, fun _ => rfl⟩
  case h_3 => cases listed

/-- The data of a listing that succeeds. -/
def routesData (routes : List Routes.Route) : Json := .obj [("routes", Wire.write routes)]

theorem routes_envelope_candid {listing : Routes.Listing} (fair : FairListing listing) :
    Candid (routesEnvelope listing) ∧
      ∀ s, routesEnvelope listing = .success s →
        ∃ routes, routes ≠ [] ∧ s.data = routesData routes := by
  unfold routesEnvelope
  split_ifs with none
  · refine ⟨candid_failure _ _ _ _, fun s same => ?_⟩
    cases same
  · refine ⟨candid_success _ fair.trusted, fun s same => ?_⟩
    obtain rfl := Envelope.success.inj same
    refine ⟨listing.routes, fun empty => none ?_, rfl⟩
    rw [empty, fair.empty empty]
    rfl

theorem list_routes_candid {routesFile? : Option String}
    (answered : listRoutes files config routesFile? = .ok envelope) :
    Candid envelope ∧
      ∀ s, envelope = .success s → ∃ routes, routes ≠ [] ∧ s.data = routesData routes := by
  unfold listRoutes listRoutesBy at answered
  dsimp only at answered
  split at answered
  case h_1 listing listed =>
    obtain rfl := Except.ok.inj answered
    exact routes_envelope_candid (list_file_fair listed)
  case h_2 refusal _ =>
    obtain ⟨escape, rfl⟩ := refused_candid answered
    refine ⟨candid_failure _ _ _ _, fun s same => ?_⟩
    cases same

/-! ### Outlines -/

theorem survey_file_trusted {survey : Outline.Survey}
    (surveyed : Outline.surveyFile files rootPath file = .ok survey) :
    survey.confidence = .high ↔ survey.warnings = [] := by
  unfold Outline.surveyFile at surveyed
  split at surveyed
  case h_1 text _ =>
    obtain rfl := Except.ok.inj surveyed
    unfold Outline.survey
    split <;> simp
  case h_2 =>
    obtain rfl := Except.ok.inj surveyed
    simp
  case h_3 => cases surveyed

theorem outline_file_candid (answered : outlineFile files config file = .ok envelope) :
    Candid envelope := by
  unfold outlineFile at answered
  split at answered
  case h_1 survey surveyed =>
    obtain rfl := Except.ok.inj answered
    unfold surveyEnvelope
    split
    · exact candid_failure _ _ _ _
    · exact candid_success _ (survey_file_trusted surveyed)
  case h_2 refusal _ =>
    obtain ⟨escape, rfl⟩ := refused_candid answered
    exact candid_failure _ _ _ _

/-! ### Lookups -/

/-- A schema can be loaded by a path: it leads to a location for which there is a copy with the stamp
that is shown, or where a schema is built. -/
def Loads (files : Files) (directory : Location) (registry : Registry) (path : String) : Prop :=
  ∃ place, files.resolveLenient directory path.toList = .ok place ∧
    ((registry.offered? files place).isSome = true ∨ ∃ catalog, built files place = .ok catalog)

def missingCodes : List String := ["FIELD_NOT_FOUND", "TYPE_NOT_FOUND", "NOT_OBJECT_TYPE"]

/-- The envelope speaks of a schema: it succeeds, or says that something is not to be found in it. -/
def SpeaksOfSchema : Envelope → Prop
  | .success _ => True
  | .failure f => f.problem.code ∈ missingCodes

def WarnsOfSchema (envelope : Envelope) : Prop :=
  ∃ warning ∈ envelope.warnings, warning.code = "SCHEMA_LOAD_ERROR"

theorem not_loads_unresolved {path : String} {unresolved : Files.Unresolved}
    (failed : files.resolveLenient directory path.toList = .error unresolved) :
    ¬Loads files directory registry path := by
  rintro ⟨place, resolved, _⟩
  rw [failed] at resolved
  cases resolved

theorem loads_at_iff {path : String} {place : Location}
    (resolved : files.resolveLenient directory path.toList = .ok place) :
    Loads files directory registry path ↔
      ((registry.offered? files place).isSome = true ∨
        ∃ catalog, built files place = .ok catalog) := by
  constructor
  · rintro ⟨other, led, loads⟩
    obtain rfl : place = other := Except.ok.inj (resolved.symm.trans led)
    exact loads
  · exact fun loads => ⟨place, resolved, loads⟩

/-- What is loaded is either the schema, trusted and without a warning, or the placeholder, which is
not trusted and comes with the warning. -/
inductive Tells (loaded : Loaded) : Prop → Prop
  | schema {loads : Prop} (yes : loads) (trusted : loaded.confidence = .high)
      (silent : loaded.warnings = []) : Tells loaded loads
  | placeholder {loads : Prop} (no : ¬loads) {reason : String} (failed : loaded = .failed reason) :
      Tells loaded loads

theorem load_tells {path : String} {loaded : Loaded}
    (answered : (registry.load files directory path).1 = .ok loaded) :
    Tells loaded (Loads files directory registry path) := by
  cases resolved : files.resolveLenient directory path.toList with
  | error unresolved =>
      rw [Registry.load_unresolved resolved] at answered
      exact .placeholder (not_loads_unresolved resolved) (Except.ok.inj answered).symm
  | ok place =>
      rw [Registry.load_at resolved] at answered
      rw [loads_at_iff resolved]
      have step := Registry.load_at_step registry files place
      generalize registry.loadAt files place = outcome at step answered
      cases step with
      | kept shown held stamped =>
          obtain rfl := Except.ok.inj answered
          refine .schema (.inl ?_) rfl rfl
          rw [Registry.offered_kept shown held stamped]
          rfl
      | fresh _ succeeded =>
          obtain rfl := Except.ok.inj answered
          exact .schema (.inr ⟨_, succeeded⟩) rfl rfl
      | failed failure none =>
          obtain ⟨reason, failed⟩ := Registry.failing_low answered
          refine .placeholder ?_ failed
          rintro (offered | ⟨catalog, succeeded⟩)
          · rw [none] at offered
            cases offered
          · rw [failure] at succeeded
            cases succeeded

theorem tells_trusted {loaded : Loaded} {loads : Prop} (tells : Tells loaded loads) :
    loaded.confidence = .high ↔ loaded.warnings = [] := by
  cases tells with
  | schema _ trusted silent => exact iff_of_true trusted silent
  | placeholder _ failed =>
      rw [failed]
      simp [Loaded.failed]

theorem tells_warned {loaded : Loaded} {loads : Prop} (tells : Tells loaded loads) :
    (∃ warning ∈ loaded.warnings, warning.code = "SCHEMA_LOAD_ERROR") ↔ ¬loads := by
  cases tells with
  | schema yes _ silent =>
      rw [silent]
      simp [yes]
  | @placeholder no reason failed =>
      rw [failed]
      exact iff_of_true ⟨Schema.loadWarning reason, List.mem_singleton_self _, rfl⟩ no

theorem not_found_candid (loaded : Loaded) (code : String) (message : Wire.Message) :
    Candid (notFound loaded code message) := candid_failure _ _ _ _

/-- The answer to a question is candid, and hands on the warnings of its schema if it speaks of it. -/
theorem question_candid {loaded : Loaded}
    (trusted : loaded.confidence = .high ↔ loaded.warnings = []) (question : Question) :
    Candid (question.envelope loaded) ∧
      (SpeaksOfSchema (question.envelope loaded) →
        (question.envelope loaded).warnings = loaded.warnings) := by
  have kept : (Wire.someWarnings loaded.warnings).getD [] = loaded.warnings :=
    Wire.some_warnings_get _
  cases question with
  | type name =>
      simp only [Question.envelope, typeEnvelope]
      split
      · exact ⟨not_found_candid _ _ _, fun _ => kept⟩
      · split_ifs
        · exact ⟨candid_success _ trusted, fun _ => kept⟩
        · exact ⟨not_found_candid _ _ _, fun _ => kept⟩
  | field reference =>
      simp only [Question.envelope, fieldEnvelope]
      split
      · have other : "INVALID_FIELD_REF" ∉ missingCodes := by decide
        exact ⟨candid_failure _ _ _ _, fun speaks => absurd speaks other⟩
      · split
        · exact ⟨not_found_candid _ _ _, fun _ => kept⟩
        · exact ⟨candid_success _ trusted, fun _ => kept⟩
  | search text => exact ⟨candid_success _ trusted, fun _ => kept⟩

/-- A lookup ends before a schema is loaded, and then says nothing of any, or with what comes of its
one question. -/
inductive LookupStep (files : Files) (directory : Location) (config : Config) (registry : Registry)
    (lookup : Lookup) : Except LookupFault Envelope → Prop
  | early {code : String} {message : Wire.Message} (other : code ∉ missingCodes) :
      LookupStep files directory config registry lookup (.ok (plainFailure code message))
  | handedOn (fault : Sandbox.Fault) :
      LookupStep files directory config registry lookup (.error (.path fault))
  | asked {path : String} {question : Question}
      (found : schemaPath? files config lookup = .ok (some path))
      (single : lookup.questions = [question]) :
      LookupStep files directory config registry lookup
        (question.outcome (registry.load files directory path).1)

theorem lookup_step (files : Files) (directory : Location) (config : Config) (registry : Registry)
    (lookup : Lookup) :
    LookupStep files directory config registry lookup
      (lookupSchema files directory config registry lookup).1 := by
  cases found : schemaPath? files config lookup with
  | error fault =>
      by_cases escaped : ∃ escape, fault = .escape escape
      · obtain ⟨escape, rfl⟩ := escaped
        rw [lookup_escaped found]
        exact .early (by decide)
      · rw [lookup_handed_on found fun escape same => escaped ⟨escape, same⟩]
        exact .handedOn fault
  | ok path? =>
      cases path? with
      | none =>
          simp only [lookupSchema, found]
          exact .early (by decide)
      | some path =>
          rcases asked : lookup.questions with _ | ⟨question, _ | _⟩
          · simp only [lookupSchema, found, asked]
            exact .early (by decide)
          · rw [lookup_asked found asked]
            exact .asked found asked
          · simp only [lookupSchema, found, asked]
            exact .early (by decide)

/-- What is due from a lookup: its envelope is candid, and if it speaks of a schema, it warns exactly
if the schema could not be loaded. Only a load can end with a warning that does not pass its checks. -/
structure CandidLookup (files : Files) (directory : Location) (config : Config)
    (registry : Registry) (lookup : Lookup) (outcome : Except LookupFault Envelope) : Prop where
  candid : ∀ envelope, outcome = .ok envelope → Candid envelope
  warns : ∀ envelope, outcome = .ok envelope → SpeaksOfSchema envelope →
    ∃ path, schemaPath? files config lookup = .ok (some path) ∧
      (WarnsOfSchema envelope ↔ ¬Loads files directory registry path)
  refused : ∀ faults, outcome = .error (.warning faults) →
    ∃ path, schemaPath? files config lookup = .ok (some path) ∧
      (registry.load files directory path).1 = .error faults

theorem lookup_candid (files : Files) (directory : Location) (config : Config)
    (registry : Registry) (lookup : Lookup) :
    CandidLookup files directory config registry lookup
      (lookupSchema files directory config registry lookup).1 := by
  have step := lookup_step files directory config registry lookup
  generalize (lookupSchema files directory config registry lookup).1 = outcome at step ⊢
  cases step with
  | early other =>
      refine ⟨?_, ?_, fun faults same => by cases same⟩
      · rintro envelope ⟨⟩
        exact candid_failure _ _ _ _
      · rintro envelope ⟨⟩ speaks
        exact absurd speaks other
  | handedOn fault =>
      refine ⟨fun envelope same => ?_, fun envelope same => ?_, fun faults same => ?_⟩
      all_goals cases same
  | @asked path question found _ =>
      cases loads : (registry.load files directory path).1 with
      | error faults =>
          refine ⟨fun envelope same => ?_, fun envelope same => ?_, ?_⟩
          · cases same
          · cases same
          · rintro other ⟨⟩
            exact ⟨path, found, loads⟩
      | ok loaded =>
          have tells := load_tells loads
          obtain ⟨candid, handed⟩ := question_candid (tells_trusted tells) question
          refine ⟨?_, ?_, fun faults same => by cases same⟩
          · rintro envelope ⟨⟩
            exact candid
          · rintro envelope ⟨⟩ speaks
            exact ⟨path, found, by rw [WarnsOfSchema, handed speaks, tells_warned tells]⟩

end StorefrontSurvey.Tools
