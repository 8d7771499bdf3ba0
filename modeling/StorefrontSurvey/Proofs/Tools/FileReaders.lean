import StorefrontSurvey.Proofs.Files.Loops
import StorefrontSurvey.Proofs.Routes.Provenance
import StorefrontSurvey.Proofs.Sandbox.NullCharacters
/-!
Listings of routes and outlines, as readers of one file. A target without null characters keeps them
from answering only if it leads out of the root. Where no text can be read for another reason they
answer with nothing, at low confidence and with one warning. A loop of links on the way of the target
is such a reason: no path is handed back for it.
-/
namespace StorefrontSurvey.Tools

open StorefrontSurvey.Files (MeetsLoop Step Way)
open StorefrontSurvey.Path (Location Absolute IsName)
open StorefrontSurvey.Sandbox
  (Obstacle Refusal LinksNullFree MeetsNull StaysIn canonicalRoot onlyLink resolve readText)

variable {files : Files} {root : Location} {rootPath target : String}

/-! ### Texts -/

/-- A target is handed back, and a file stands there whose bytes are a text. -/
def Holds (files : Files) (rootPath target : String) (text : List Char) : Prop :=
  ∃ place bytes modified, resolve files rootPath target = .ok place ∧
    files.status place = .ok (.file bytes modified) ∧ Text.ofBytes bytes = .ok text

theorem content_ok_iff {place : Absolute} {bytes : List UInt8} :
    files.content place = .ok bytes ↔
      ∃ modified, files.status place = .ok (.file bytes modified) := by
  unfold Files.content
  cases files.status place with
  | error fault => simp [bind, Except.bind]
  | ok node =>
      cases node <;>
        simp [bind, Except.bind, pure, Except.pure, throw, throwThe, MonadExceptOf.throw]

theorem read_text_iff_holds {text : List Char} :
    readText files rootPath target = .ok text ↔ Holds files rootPath target text := by
  constructor
  · intro read
    simp only [readText, bind, Except.bind] at read
    cases resolved : resolve files rootPath target with
    | error fault => simp [resolved] at read
    | ok place =>
        cases found : files.content place with
        | error fault => simp [resolved, found, throw, throwThe, MonadExceptOf.throw] at read
        | ok bytes =>
            obtain ⟨modified, shown⟩ := content_ok_iff.1 found
            refine ⟨place, bytes, modified, resolved, shown, ?_⟩
            simp only [resolved, found] at read
            cases decoded : Text.ofBytes bytes with
            | error fault => simp [decoded, throw, throwThe, MonadExceptOf.throw] at read
            | ok shownText => simpa [decoded, pure, Except.pure] using read
  · rintro ⟨place, bytes, modified, resolved, shown, decoded⟩
    simp only [readText, resolved, content_ok_iff.2 ⟨modified, shown⟩, decoded, bind, Except.bind]
    rfl

/-! ### Loops -/

/-- A target on whose way a loop of links is met is not handed back, and it is not said to lead out
of the root either. -/
theorem loop_blocks (usable : canonicalRoot files rootPath = .ok root)
    (stays : StaysIn root target)
    (meets : MeetsLoop files ⟨[], (Path.fromDirectory root target.toList).location⟩) :
    ∃ obstacle, resolve files rootPath target = .error (.blocked obstacle) := by
  have names := Path.from_directory_names root target.toList
  obtain ⟨cause, path, failed, ends⟩ := Files.strict_of_loop (Path.names_slash_free names) meets
  have present : ∀ other, Files.Fault.system cause path ≠ .system .missing other := by
    rintro other same
    cases same
    cases ends
  have blocked := Sandbox.resolve_in_on_way stays failed present
  rw [Sandbox.resolve_in_of_usable usable, blocked]
  cases cause <;> exact ⟨_, rfl⟩

/-! ### Readers -/

variable {Answer : Type} {made : List Char → Answer} {unread : Obstacle → Answer}
  {nothing : Answer → Prop} {outcome : Except Refusal Answer}

/-- A reader makes something of a text, and of an obstacle; a refusal it hands on. -/
structure Reads (files : Files) (rootPath target : String) (made : List Char → Answer)
    (unread : Obstacle → Answer) (outcome : Except Refusal Answer) : Prop where
  text : ∀ text, readText files rootPath target = .ok text → outcome = .ok (made text)
  blocked : ∀ obstacle, readText files rootPath target = .error (.blocked obstacle) →
    outcome = .ok (unread obstacle)
  refused : ∀ refusal, readText files rootPath target = .error (.refused refusal) →
    outcome = .error refusal

/-- What is due from a reader. It answers for a text; it fails exactly where a target leads out of the
root; for want of a text it answers with nothing, and a loop of links is always such a case. -/
structure FailsByEscape (files : Files) (root : Location) (rootPath target : String)
    (made : List Char → Answer) (nothing : Answer → Prop) (outcome : Except Refusal Answer) :
    Prop where
  read : ∀ text, Holds files rootPath target text → outcome = .ok (made text)
  raised : ∀ refusal, outcome = .error refusal ↔ ∃ escape, refusal = .escaped escape ∧
    resolve files rootPath target = .error (.escape escape)
  unread : (∀ text, ¬Holds files rootPath target text) →
    (∀ escape, resolve files rootPath target ≠ .error (.escape escape)) →
    ∃ answer, outcome = .ok answer ∧ nothing answer
  looped : StaysIn root target →
    MeetsLoop files ⟨[], (Path.fromDirectory root target.toList).location⟩ →
    (∀ place, resolve files rootPath target ≠ .ok place) ∧
      ∃ answer, outcome = .ok answer ∧ nothing answer

theorem reader_fails_by_escape (usable : canonicalRoot files rootPath = .ok root)
    (links : LinksNullFree files) (free : '\x00' ∉ target.toList)
    (bare : ∀ obstacle, nothing (unread obstacle))
    (reads : Reads files rootPath target made unread outcome) :
    FailsByEscape files root rootPath target made nothing outcome := by
  have notMet : ¬MeetsNull files root target := fun met =>
    free (Sandbox.null_met_in_target links (Sandbox.canonical_root_firm usable) met)
  have escaped {escape : Sandbox.Escape}
      (failed : resolve files rootPath target = .error (.escape escape)) :
      outcome = .error (.escaped escape) :=
    reads.refused _ (Sandbox.read_text_not_found failed)
  refine ⟨fun text holds => reads.text text (read_text_iff_holds.2 holds), ?_, ?_, ?_⟩
  · intro refusal
    constructor
    · intro failed
      rcases Sandbox.read_text_cases usable target with
        ⟨text, read⟩ | ⟨obstacle, blocked⟩ | ⟨escape, outside, _⟩ | ⟨_, met⟩
      · rw [reads.text text read] at failed
        cases failed
      · rw [reads.blocked obstacle blocked] at failed
        cases failed
      · rw [escaped outside] at failed
        exact ⟨escape, (Except.error.inj failed).symm, outside⟩
      · exact absurd met notMet
    · rintro ⟨escape, rfl, outside⟩
      exact escaped outside
  · intro textless inside
    rcases Sandbox.read_text_cases usable target with
      ⟨text, read⟩ | ⟨obstacle, blocked⟩ | ⟨escape, outside, _⟩ | ⟨_, met⟩
    · exact absurd (read_text_iff_holds.1 read) (textless text)
    · exact ⟨_, reads.blocked obstacle blocked, bare obstacle⟩
    · exact absurd outside (inside escape)
    · exact absurd met notMet
  · intro stays meets
    obtain ⟨obstacle, blocked⟩ := loop_blocks usable stays meets
    have unreadable := reads.blocked obstacle (Sandbox.read_text_not_found blocked)
    refine ⟨fun place resolved => ?_, _, unreadable, bare obstacle⟩
    rw [blocked] at resolved
    cases resolved

/-! ### Listings and outlines -/

/-- A survey of a file whose text is not known. -/
structure SurveysNothing (survey : Outline.Survey) : Prop where
  outline : survey.outline = .empty
  confidence : survey.confidence = .low
  warned : Routes.WarnsOnce survey.warnings "PARSE_ERROR"

theorem list_file_reads (parser : Script.Parser) (files : Files) (rootPath file : String) :
    Reads files rootPath file (fun text => Routes.listBy parser (String.ofList text) file)
      (fun obstacle => ⟨[], .low, [Routes.unreadWarning obstacle]⟩)
      (Routes.listFileBy parser files rootPath file) where
  text text read := by rw [Routes.listFileBy, read]
  blocked obstacle blocked := by rw [Routes.listFileBy, blocked]
  refused refusal refused := by rw [Routes.listFileBy, refused]

theorem survey_file_reads (files : Files) (rootPath file : String) :
    Reads files rootPath file (fun text => Outline.survey (String.ofList text) file)
      (fun obstacle => ⟨.empty, .low, [Outline.unreadWarning obstacle]⟩)
      (Outline.surveyFile files rootPath file) where
  text text read := by rw [Outline.surveyFile, read]
  blocked obstacle blocked := by rw [Outline.surveyFile, blocked]
  refused refusal refused := by rw [Outline.surveyFile, refused]

theorem links_null_free_of_nodes
    (free : ∀ entry ∈ files.nodes, ∀ aim, entry.2 = .link aim → '\x00' ∉ aim) :
    LinksNullFree files := by
  intro link aim stands
  cases link with
  | nil => cases stands
  | cons first rest => exact free _ (Files.node_listed (by simp) stands) aim rfl

end StorefrontSurvey.Tools
