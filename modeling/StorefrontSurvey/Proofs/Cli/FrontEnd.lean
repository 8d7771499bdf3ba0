import StorefrontSurvey.Proofs.Cli.Invocations
import StorefrontSurvey.Proofs.Tools.LegibleAnswers
/-!
The command line hands on what the tools answer. What it prints is read back as the envelope and as
nothing else, whatever texts stand in the envelope, and the exit code tells whether it succeeds.
-/
namespace StorefrontSurvey.Cli

open StorefrontSurvey.Path (Location)
open Json (Legible)
open Tools (Config Environment)
open Wire (Envelope)

variable {files : Files} {directory : Location} {surroundings : Environment} {config : Config}
  {line : List String} {call : Invocation} {request : Request} {envelope : Envelope}

/-- A tool answers a request with an envelope when it is called with what the request gives. A lookup
starts without schemas. -/
inductive Answers (files : Files) (directory : Location) (config : Config) :
    Request → Envelope → Prop
  | routes {file? : Option String} {envelope : Envelope}
      (answered : Tools.listRoutes files config file? = .ok envelope) :
      Answers files directory config (.routes file?) envelope
  | outline {file : String} {envelope : Envelope}
      (answered : Tools.outlineFile files config file = .ok envelope) :
      Answers files directory config (.outline file) envelope
  | schema {lookup : Tools.Lookup} {envelope : Envelope}
      (answered : (Tools.lookupSchema files directory config .empty lookup).1 = .ok envelope) :
      Answers files directory config (.schema lookup) envelope
  | placement (consumer query : String) (allowlist? : Option (List String)) :
      Answers files directory config (.placement consumer query allowlist?)
        (Tools.checkPlacement config consumer query allowlist?)

theorem request_answered_iff :
    request.run files directory config = .answered envelope ↔
      Answers files directory config request envelope := by
  constructor
  · intro ran
    cases request with
    | routes file? =>
        simp only [Request.run] at ran
        split at ran
        · obtain rfl := Outcome.answered.inj ran
          exact .routes ‹_›
        · cases ran
    | outline file =>
        simp only [Request.run] at ran
        split at ran
        · obtain rfl := Outcome.answered.inj ran
          exact .outline ‹_›
        · cases ran
    | schema lookup =>
        simp only [Request.run] at ran
        split at ran
        · obtain rfl := Outcome.answered.inj ran
          exact .schema ‹_›
        · cases ran
        · cases ran
    | placement consumer query allowlist? =>
        obtain rfl := Outcome.answered.inj ran
        exact .placement consumer query allowlist?
    | serve => cases ran
  · intro answers
    cases answers with
    | routes answered => simp only [Request.run, answered]
    | outline answered => simp only [Request.run, answered]
    | schema answered => simp only [Request.run, answered]
    | placement => rfl

theorem answers_legible (answers : Answers files directory config request envelope) :
    Legible 6 envelope.write := by
  cases answers with
  | routes answered => exact Tools.list_routes_legible answered
  | outline answered => exact Tools.outline_file_legible answered
  | schema answered => exact Tools.lookup_schema_legible answered
  | placement => exact Tools.check_placement_legible _ _ _ _

/-- An outcome hands on an envelope: it is printed, what is printed is read as the envelope and as
nothing else, and the exit code is zero exactly if the envelope is one of success. -/
structure HandsOn (outcome : Outcome) (envelope : Envelope) : Prop where
  printed : ∃ text, outcome.output? = some text ∧
    ∀ json, Json.parse text.toList = .ok (Json.raw json) ↔ json = envelope.write
  exits : outcome.exitCode = 0 ↔ envelope.ok = true

theorem answered_hands_on (legible : Legible 6 envelope.write) :
    HandsOn (.answered envelope) envelope where
  printed := by
    refine ⟨_, rfl, fun json => ?_⟩
    have text : (Json.print envelope.write ++ "\n").toList =
        (Json.print envelope.write).toList ++ ['\n'] := by simp
    have within : Legible Json.mostLevels envelope.write := legible.more (by decide)
    have blank : ∀ c ∈ ['\n'], Json.Cursor.isBlank c = true := List.forall_mem_singleton.2 rfl
    rw [text, Json.parse_printed within blank]
    constructor
    · intro same
      exact Json.raw_injective (Except.ok.inj same).symm
    · rintro rfl
      rfl
  exits := by
    cases ok : envelope.ok with
    | true => simp [Outcome.exitCode, ok]
    | false => simp [Outcome.exitCode, ok]

/-- A line is answered exactly with what the tool that it asks for answers. -/
theorem run_answered_iff :
    run files directory surroundings line = .answered envelope ↔
      ∃ call config, Reads line call ∧
        Config.load files directory surroundings call.root? call.schema? = .ok config ∧
        Answers files directory config call.request envelope := by
  constructor
  · intro ran
    have step := run_step files directory surroundings line
    rw [ran] at step
    generalize answered : Outcome.answered envelope = outcome at step
    cases step with
    | misused => cases answered
    | helped => cases answered
    | unconfigured => cases answered
    | ran reads configured =>
        exact ⟨_, _, reads, configured, request_answered_iff.1 answered.symm⟩
  · rintro ⟨call, config, reads, configured, answers⟩
    rw [run_of_reads reads configured]
    exact request_answered_iff.2 answers

end StorefrontSurvey.Cli
