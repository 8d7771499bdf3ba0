import StorefrontSurvey.Proofs.Tools.SchemaLookups
/-!
Runs on one registry: files change in between, and schemas are loaded and asked. As long as a stamp
tells what a file holds, each answer is the one that a new registry would give, so nothing that came
before has a say in it.
-/
namespace StorefrontSurvey.Tools

open StorefrontSurvey.Path (Location)
open Schema (Registry Loaded Verdict)
open Schema.Registry (IsCanonical StampsTell Backed)

/-- One thing that happens in a run. A change may be any: what is written, removed, touched or linked
in other places shows in the files after it. -/
inductive Event where
  | change (files : Files)
  | load (path : String)
  | lookup (config : Config) (lookup : Lookup)

/-- What an event answers. It is not told whether a schema was taken from the registry. -/
inductive Answer where
  | done
  | loaded (verdict : Except (List Wire.Fault) Verdict)
  | looked (outcome : Except LookupFault Wire.Envelope)

structure World where
  files : Files
  registry : Registry

namespace World

def step (world : World) (directory : Location) : Event → Answer × World
  | .change files => (.done, { world with files })
  | .load path =>
    let (outcome, registry) := world.registry.load world.files directory path
    (.loaded (outcome.map Loaded.verdict), { world with registry })
  | .lookup config lookup =>
    let (outcome, registry) :=
      lookupSchema world.files directory config world.registry lookup
    (.looked outcome, { world with registry })

/-- The answers to events, one after another. -/
def answers (world : World) (directory : Location) : List Event → List Answer
  | [] => []
  | event :: rest =>
    let (answer, world) := world.step directory event
    answer :: world.answers directory rest

/-- The answers if each event finds a new registry. -/
def freshAnswers (files : Files) (directory : Location) : List Event → List Answer
  | [] => []
  | event :: rest =>
    let (answer, world) := step ⟨files, .empty⟩ directory event
    answer :: freshAnswers world.files directory rest

end World

/-- The files at each moment of a run. -/
def moments (files : Files) : List Event → List Files
  | [] => [files]
  | .change other :: rest => files :: moments other rest
  | _ :: rest => files :: moments files rest

theorem moments_head (files : Files) (events : List Event) : files ∈ moments files events := by
  cases events with
  | nil => simp [moments]
  | cons event rest => cases event <;> simp [moments]

/-! ### One answer -/

variable {registry : Registry} {files : Files} {directory : Location} {past : List Files}

theorem load_verdict (backed : Backed past registry) (tell : StampsTell past)
    (now : files ∈ past) (path : String) :
    (registry.load files directory path).1.map Loaded.verdict =
      (Registry.empty.load files directory path).1.map Loaded.verdict := by
  unfold Registry.load
  cases resolved : files.resolveLenient directory path.toList with
  | error unresolved => rfl
  | ok place =>
      have canonical : IsCanonical files place := ⟨directory, path.toList, resolved⟩
      dsimp only
      rw [Schema.Registry.load_at_verdict backed tell now canonical,
        Schema.Registry.load_at_verdict (Schema.Registry.empty_backed past) tell now canonical]

theorem load_backed (backed : Backed past registry) (now : files ∈ past) (path : String) :
    Backed past (registry.load files directory path).2 := by
  unfold Registry.load
  cases resolved : files.resolveLenient directory path.toList with
  | error unresolved => exact backed
  | ok place => exact Schema.Registry.load_at_backed backed now ⟨directory, path.toList, resolved⟩

/-! ### One step -/

/-- In a world whose copies are backed, an event is answered as with a new registry. -/
theorem step_answer {world : World} (directory : Location) (backed : Backed past world.registry)
    (tell : StampsTell past) (now : world.files ∈ past) (event : Event) :
    (world.step directory event).1 = (World.step ⟨world.files, .empty⟩ directory event).1 := by
  cases event with
  | change files => rfl
  | load path => exact congrArg Answer.loaded (load_verdict backed tell now path)
  | lookup config lookup =>
      simp only [World.step]
      rcases lookup_cases world.files directory config lookup with
        ⟨outcome, same⟩ | ⟨path, question, _, _, loads⟩
      · rw [same, same]
      · rw [loads, loads, outcome_verdict (load_verdict backed tell now path)]

/-- Copies stay backed, as long as the files of the moment count among those that back them. -/
theorem step_backed {world : World} (directory : Location) (backed : Backed past world.registry)
    (now : world.files ∈ past) (event : Event) :
    Backed past (world.step directory event).2.registry := by
  cases event with
  | change files => exact backed
  | load path => exact load_backed backed now path
  | lookup config lookup =>
      simp only [World.step]
      rcases lookup_cases world.files directory config lookup with
        ⟨outcome, same⟩ | ⟨path, question, _, _, loads⟩
      · rw [same]
        exact backed
      · rw [loads]
        exact load_backed backed now path

theorem step_files (world : World) (registry : Registry) (event : Event) :
    (world.step directory event).2.files =
      (World.step ⟨world.files, registry⟩ directory event).2.files := by
  cases event <;> rfl

theorem moments_step (directory : Location) (world : World) (event : Event) (rest : List Event) :
    moments world.files (event :: rest) =
      world.files :: moments (world.step directory event).2.files rest := by
  cases event <;> rfl

/-! ### Whole runs -/

theorem answers_fresh {world : World} (events : List Event)
    (backed : Backed past world.registry) (tell : StampsTell past)
    (within : ∀ files ∈ moments world.files events, files ∈ past) :
    world.answers directory events = World.freshAnswers world.files directory events := by
  induction events generalizing world with
  | nil => rfl
  | cons event rest ih =>
      have now : world.files ∈ past := within _ (moments_head _ _)
      have answer := step_answer directory backed tell now event
      have later := ih (step_backed directory backed now event) fun files member =>
        within files (by
          rw [moments_step directory]
          exact List.mem_cons_of_mem _ member)
      rw [World.answers, World.freshAnswers]
      dsimp only
      rw [answer, later, step_files world .empty]

/-- If at no two moments of a run a canonical location shows one stamp and two contents, then all
that the run answers is what a new registry would answer at each moment. -/
theorem registry_unnoticed (files : Files) (directory : Location) (events : List Event)
    (tell : StampsTell (moments files events)) :
    World.answers ⟨files, .empty⟩ directory events =
      World.freshAnswers files directory events :=
  answers_fresh events (Schema.Registry.empty_backed _) tell fun _ member => member

/-- A schema that is loaded, written anew with a later time, and loaded and asked again. -/
theorem registry_unnoticed_on_rewrite :
    let draft : Files := ⟨[([['s']], .file [104, 105] 1)]⟩
    let final : Files := ⟨[([['s']], .file [] 2)]⟩
    let config : Config := ⟨"/", some "/s", "", []⟩
    let events := [.load "/s", .change final, .load "s", .lookup config ⟨none, none, none, some "Q"⟩]
    StampsTell (moments draft events) ∧
      World.answers ⟨draft, .empty⟩ [] events = World.freshAnswers draft [] events := by
  intro draft final config events
  have tell : StampsTell (moments draft events) := by
    refine Schema.Registry.stamps_tell_of_nodes ?_
    decide +revert
  exact ⟨tell, registry_unnoticed draft [] events tell⟩

end StorefrontSurvey.Tools
