import StorefrontSurvey.Proofs.Sandbox.NullCharacters
import StorefrontSurvey.Proofs.Schema.LastBuilds
import StorefrontSurvey.Proofs.Tools.SchemaLookups
/-!
When the tools that look at files answer with an envelope. A listing of routes and an outline always
do, unless a null character is met. A schema lookup does not where its path has a snag, such as a
link that leads to itself: what the other two report in a warning is handed on here. Nor does it where
its schema fails to load for a reason that no warning can tell.
-/
namespace StorefrontSurvey.Tools

open StorefrontSurvey.Path (Location Absolute)
open Wire (Envelope)
open Schema (Registry Loaded)
open Sandbox (Escape Fault Obstacle MeetsNull Snagged canonicalRoot)

variable {files : Files} {directory root : Location} {config : Config} {registry : Registry}
  {lookup : Lookup} {target rootPath : String}

def escapeFailure (escape : Escape) : Envelope :=
  plainFailure "PATH_ESCAPE" ⟨escape.message, escape.message_ne⟩

/-! ### Listings and outlines -/

/-- What is due from a tool that reads one file: an envelope, which tells of an escape, or of the
obstacle if the file cannot be read. -/
structure FileAnswer (files : Files) (rootPath target : String) (unread : Obstacle → Envelope)
    (outcome : Except Fault Envelope) : Prop where
  answered : ∃ envelope, outcome = .ok envelope
  escaped : ∀ escape, Sandbox.resolve files rootPath target = .error (.escape escape) →
    outcome = .ok (escapeFailure escape)
  degraded : ∀ obstacle, Sandbox.readText files rootPath target = .error (.blocked obstacle) →
    outcome = .ok (unread obstacle)

/-- A tool reads its file, and it answers with what it makes of the text, of an obstacle or of a
refusal. -/
structure ReadsFile (files : Files) (rootPath target : String) (unread : Obstacle → Envelope)
    (outcome : Except Fault Envelope) : Prop where
  read : ∀ text, Sandbox.readText files rootPath target = .ok text → ∃ envelope,
    outcome = .ok envelope
  blocked : ∀ obstacle, Sandbox.readText files rootPath target = .error (.blocked obstacle) →
    outcome = .ok (unread obstacle)
  refused : ∀ refusal, Sandbox.readText files rootPath target = .error (.refused refusal) →
    outcome = Tools.refused refusal

theorem file_answer_iff {unread : Obstacle → Envelope} {outcome : Except Fault Envelope}
    (usable : canonicalRoot files rootPath = .ok root)
    (reads : ReadsFile files rootPath target unread outcome) :
    FileAnswer files rootPath target unread outcome ↔ ¬MeetsNull files root target := by
  constructor
  · rintro ⟨⟨envelope, answered⟩, _, _⟩ met
    have refused := reads.refused _ ((Sandbox.read_text_null_iff usable).2 met)
    rw [answered] at refused
    cases refused
  · intro notMet
    refine ⟨?_, ?_, reads.blocked⟩
    · rcases Sandbox.read_text_cases usable target with
        ⟨text, read⟩ | ⟨obstacle, blocked⟩ | ⟨escape, _, escaped⟩ | ⟨_, met⟩
      · exact reads.read text read
      · exact ⟨_, reads.blocked obstacle blocked⟩
      · exact ⟨_, reads.refused _ escaped⟩
      · exact absurd met notMet
    · intro escape escaped
      exact reads.refused _ (Sandbox.read_text_not_found escaped)

/-- The manifest that is listed. -/
def manifestFor (config : Config) (routesFile? : Option String) : String :=
  (firstGiven? [routesFile?]).getD config.routesFile

theorem no_routes_text_ne : "No routes found in the routes file" ≠ "" := by decide

def unreadListing (obstacle : Obstacle) : Envelope :=
  Wire.failure "NO_ROUTES_FOUND" ⟨"No routes found in the routes file", no_routes_text_ne⟩ .low
    [Routes.unreadWarning obstacle]

theorem list_routes_reads (files : Files) (config : Config) (routesFile? : Option String) :
    ReadsFile files config.root (manifestFor config routesFile?) unreadListing
      (listRoutes files config routesFile?) where
  read text read := by
    unfold manifestFor at read
    simp only [listRoutes, listRoutesBy, Routes.listFileBy, read]
    exact ⟨_, rfl⟩
  blocked obstacle blocked := by
    unfold manifestFor at blocked
    simp only [listRoutes, listRoutesBy, Routes.listFileBy, blocked]
    rfl
  refused refusal refused := by
    unfold manifestFor at refused
    simp only [listRoutes, listRoutesBy, Routes.listFileBy, refused]

def unreadOutline (obstacle : Obstacle) : Envelope :=
  let warning := Outline.unreadWarning obstacle
  Wire.failure "PARSE_FAILED" ⟨warning.message, warning.message_ne⟩ .low [warning]

theorem outline_file_reads (files : Files) (config : Config) (file : String) :
    ReadsFile files config.root file unreadOutline (outlineFile files config file) where
  read text read := by
    simp only [outlineFile, Outline.surveyFile, read]
    exact ⟨_, rfl⟩
  blocked obstacle blocked := by
    simp only [outlineFile, Outline.surveyFile, blocked]
    rfl
  refused refusal refused := by
    simp only [outlineFile, Outline.surveyFile, refused]

/-! ### Lookups -/

/-- What is due from a lookup: an envelope, which tells of an escape, and which is answered from the
placeholder if nothing can be seen where the path leads. -/
structure LookupAnswer (files : Files) (directory : Location) (config : Config)
    (registry : Registry) (lookup : Lookup) : Prop where
  answered : ∃ envelope, (lookupSchema files directory config registry lookup).1 = .ok envelope
  escaped : ∀ target escape, firstGiven? [lookup.schemaPath?] = some target →
    Sandbox.resolve files config.root target = .error (.escape escape) →
      lookupSchema files directory config registry lookup =
        (.ok (escapeFailure escape), registry)
  degraded : ∀ path question, schemaPath? files config lookup = .ok (some path) →
    lookup.questions = [question] →
    (∀ key, files.resolveLenient directory path.toList = .ok key →
      ∃ fault, files.status (key : Absolute) = .error fault) →
    ∃ reason, lookupSchema files directory config registry lookup =
      (.ok (question.envelope (.failed reason)), registry)

theorem load_unseen (registry : Registry) {path : String}
    (unseen : ∀ key, files.resolveLenient directory path.toList = .ok key →
      ∃ fault, files.status (key : Absolute) = .error fault) :
    ∃ reason, registry.load files directory path = (.ok (.failed reason), registry) := by
  rcases Registry.load_cases registry files directory path with failed | ⟨key, resolved, step⟩
  · exact failed
  · obtain ⟨fault, failed⟩ := unseen key resolved
    rw [Registry.load_at resolved]
    refine ⟨fault.message, ?_⟩
    unfold Registry.loadAt
    rw [failed, ← Loaded.failing_of]

theorem lookup_escaped {escape : Escape}
    (failed : schemaPath? files config lookup = .error (.escape escape)) :
    lookupSchema files directory config registry lookup = (.ok (escapeFailure escape), registry) := by
  simp only [lookupSchema, failed, Fault.escape]
  rfl

/-- A lookup hands on whatever keeps its path from being resolved, unless that is an escape. -/
theorem lookup_handed_on {fault : Fault} (failed : schemaPath? files config lookup = .error fault)
    (other : ∀ escape, fault ≠ .escape escape) :
    (lookupSchema files directory config registry lookup).1 = .error (.path fault) := by
  cases fault with
  | blocked obstacle => simp only [lookupSchema, failed]
  | refused refusal =>
      cases refusal with
      | escaped escape => exact absurd rfl (other escape)
      | root | rootLoop | nullCharacter =>
          simp only [lookupSchema, failed, refused, Except.mapError]

theorem lookup_asked {path : String} {question : Question}
    (found : schemaPath? files config lookup = .ok (some path))
    (asked : lookup.questions = [question]) :
    (lookupSchema files directory config registry lookup).1 =
      question.outcome (registry.load files directory path).1 := by
  simp only [lookupSchema, found, asked]
  cases registry.load files directory path with
  | mk outcome after => cases outcome <;> rfl

/-- A lookup asks something of a schema that has no answer to be loaded with. -/
def AsksUnanswerable (files : Files) (directory : Location) (config : Config)
    (registry : Registry) (lookup : Lookup) : Prop :=
  ∃ path question, schemaPath? files config lookup = .ok (some path) ∧
    lookup.questions = [question] ∧ registry.Unanswerable files directory path

theorem lookup_unanswerable
    (unanswerable : AsksUnanswerable files directory config registry lookup) :
    (lookupSchema files directory config registry lookup).1 = .error (.warning Loaded.untold) := by
  obtain ⟨path, question, found, asked, unanswerable⟩ := unanswerable
  rw [lookup_asked found asked, Registry.load_error_iff.2 ⟨unanswerable, rfl, rfl⟩]
  rfl

theorem lookup_found {path? : Option String} (found : schemaPath? files config lookup = .ok path?)
    (answerable : ¬AsksUnanswerable files directory config registry lookup) :
    ∃ envelope, (lookupSchema files directory config registry lookup).1 = .ok envelope := by
  cases path? with
  | none => simp [lookupSchema, found]
  | some path =>
      rcases asked : lookup.questions with _ | ⟨question, _ | _⟩
      · simp [lookupSchema, found, asked]
      · obtain ⟨loaded, loads⟩ := Registry.load_answered_iff.2 fun unanswerable =>
          answerable ⟨path, question, found, asked, unanswerable⟩
        rw [lookup_asked found asked, loads]
        exact ⟨_, rfl⟩
      · simp [lookupSchema, found, asked]

theorem schema_path_unresolved {fault : Fault}
    (given : firstGiven? [lookup.schemaPath?] = some target)
    (failed : Sandbox.resolve files config.root target = .error fault) :
    schemaPath? files config lookup = .error fault := by
  rw [schema_path_given given, failed]
  rfl

theorem lookup_answer_iff (usable : canonicalRoot files config.root = .ok root) :
    LookupAnswer files directory config registry lookup ↔
      (∀ target, firstGiven? [lookup.schemaPath?] = some target → ¬Snagged files root target) ∧
        ¬AsksUnanswerable files directory config registry lookup := by
  constructor
  · rintro ⟨⟨envelope, answered⟩, _, _⟩
    constructor
    · intro target given snagged
      obtain ⟨fault, failed, other⟩ := Sandbox.resolve_in_snagged snagged
      rw [← Sandbox.resolve_in_of_usable usable] at failed
      rw [lookup_handed_on (schema_path_unresolved given failed) other] at answered
      cases answered
    · intro unanswerable
      rw [lookup_unanswerable unanswerable] at answered
      cases answered
  · rintro ⟨free, answerable⟩
    refine ⟨?_, ?_, ?_⟩
    · cases found : schemaPath? files config lookup with
      | ok path? => exact lookup_found found answerable
      | error fault =>
          cases given : firstGiven? [lookup.schemaPath?] with
          | none => simp [schemaPath?, given] at found
          | some target =>
              rw [schema_path_given given] at found
              cases resolved : Sandbox.resolve files config.root target with
              | ok place => simp [resolved, Except.map] at found
              | error other =>
                  have unresolved := schema_path_unresolved given resolved
                  rw [Sandbox.resolve_in_of_usable usable] at resolved
                  rcases Sandbox.resolve_in_fault resolved with ⟨escape, rfl⟩ | ⟨stays, snag⟩
                  · exact ⟨_, by rw [lookup_escaped unresolved]⟩
                  · exact absurd ⟨stays, other, snag⟩ (free target given)
    · intro target escape given escaped
      exact lookup_escaped (schema_path_unresolved given escaped)
    · intro path question found asked unseen
      obtain ⟨reason, loads⟩ := load_unseen registry unseen
      refine ⟨reason, ?_⟩
      simp only [lookupSchema, found, asked, loads]

/-- A listing of routes and an outline are answered exactly if no null character is met, and a schema
lookup is answered exactly if its path has no snag and its schema does not fail to load for a reason
that cannot be written. -/
theorem file_tools_answer_iff (usable : canonicalRoot files config.root = .ok root)
    (directory : Location) (registry : Registry) (routesFile? : Option String) (file : String)
    (lookup : Lookup) :
    (FileAnswer files config.root (manifestFor config routesFile?) unreadListing
        (listRoutes files config routesFile?) ↔
      ¬MeetsNull files root (manifestFor config routesFile?)) ∧
    (FileAnswer files config.root file unreadOutline (outlineFile files config file) ↔
      ¬MeetsNull files root file) ∧
    (LookupAnswer files directory config registry lookup ↔
      (∀ target, firstGiven? [lookup.schemaPath?] = some target → ¬Snagged files root target) ∧
        ¬AsksUnanswerable files directory config registry lookup) :=
  ⟨file_answer_iff usable (list_routes_reads files config routesFile?),
    file_answer_iff usable (outline_file_reads files config file), lookup_answer_iff usable⟩

/-- A link that leads to itself is reported by a listing and by an outline, and a missing schema is
looked up in the placeholder. -/
theorem looped_link_answered :
    let files := Sandbox.onlyLink "l"
    let config : Config := ⟨"/r", none, "l", []⟩
    canonicalRoot files config.root = .ok [['r']] ∧
      FileAnswer files config.root "l" unreadListing (listRoutes files config none) ∧
      FileAnswer files config.root "l" unreadOutline (outlineFile files config "l") ∧
      LookupAnswer files [] config .empty ⟨some "n", none, none, some "Q"⟩ := by
  intro files config
  have usable : canonicalRoot files config.root = .ok [['r']] := by decide +kernel +revert
  have read : Sandbox.readText files config.root "l" ≠ .error (.refused .nullCharacter) := by
    decide +kernel +revert
  have resolved : Sandbox.resolve files config.root "n" = .ok ([['r'], ['n']] : Location) := by
    decide +kernel +revert
  have here : files.resolveLenient [] "/r/n".toList = .ok [['r'], ['n']] := by
    decide +kernel +revert
  have missing : (files.status (([['r'], ['n']] : Location) : Absolute)).toOption = none := by
    decide +kernel +revert
  have notMet : ¬MeetsNull files [['r']] "l" := fun met =>
    read ((Sandbox.read_text_null_iff usable).2 met)
  obtain ⟨listing, outline, lookup⟩ := file_tools_answer_iff usable [] .empty none "l"
    ⟨some "n", none, none, some "Q"⟩
  refine ⟨usable, listing.2 notMet, outline.2 notMet, lookup.2 ⟨?_, ?_⟩⟩
  · rintro target given snagged
    obtain rfl : "n" = target := Option.some.inj given
    obtain ⟨fault, failed, _⟩ := Sandbox.resolve_in_snagged snagged
    rw [← Sandbox.resolve_in_of_usable usable, resolved] at failed
    cases failed
  · rintro ⟨path, question, found, _, key, led, untellable⟩
    rw [schema_path_given rfl, resolved] at found
    obtain rfl : "/r/n" = path := by
      have shown : (([['r'], ['n']] : Location) : Absolute).text = "/r/n" := by decide +kernel
      simpa [Except.map, shown] using found
    obtain rfl : ([['r'], ['n']] : Location) = key := Except.ok.inj (here.symm.trans led)
    obtain ⟨_, _, seen, _⟩ := untellable.file
    rw [seen] at missing
    cases missing

/-- A schema lookup of such a link has no answer, and a path with a null character has none from any
of the tools. -/
theorem looped_link_unanswered :
    let files := Sandbox.onlyLink "l"
    let config : Config := ⟨"/r", none, "l", []⟩
    canonicalRoot files config.root = .ok [['r']] ∧
      (∀ envelope, (lookupSchema files [] config .empty ⟨some "l", none, none, some "Q"⟩).1 ≠
        .ok envelope) ∧
      (∀ envelope, listRoutes files config (some "\x00") ≠ .ok envelope) ∧
      ∀ envelope, outlineFile files config "\x00" ≠ .ok envelope := by
  intro files config
  have usable : canonicalRoot files config.root = .ok [['r']] := by decide +kernel +revert
  have looped : Sandbox.resolve files config.root "l" =
      .error (.blocked (.linkLoop "/r/l" "/r/l")) := by decide +kernel +revert
  have null : Sandbox.readText files config.root "\x00" = .error (.refused .nullCharacter) := by
    decide +kernel +revert
  refine ⟨usable, ?_, ?_, ?_⟩
  · intro envelope answered
    rw [lookup_handed_on (schema_path_unresolved rfl looped) (by simp [Fault.escape])] at answered
    cases answered
  · intro envelope answered
    rw [(list_routes_reads files config (some "\x00")).refused _ null] at answered
    cases answered
  · intro envelope answered
    rw [(outline_file_reads files config "\x00").refused _ null] at answered
    cases answered

end StorefrontSurvey.Tools
