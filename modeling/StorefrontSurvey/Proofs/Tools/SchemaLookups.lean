import StorefrontSurvey.Proofs.Sandbox.BlindLinks
import StorefrontSurvey.Proofs.Sandbox.Isolation
import StorefrontSurvey.Proofs.Schema.Copies
import StorefrontSurvey.Tools.Tools
/-!
Which file a schema lookup looks at. Its path is kept within the root by the sandbox and resolved
once more by the registry, which passes over what is missing; the main statement says when the two
agree that the file lies within the root.
-/
namespace StorefrontSurvey.Tools

open StorefrontSurvey.Path (Location Absolute)
open Wire (Envelope)
open Schema (Registry Loaded Verdict Copy)
open Sandbox (AgreeWithin BlindLink KeptWithin canonicalRoot isWithin)

variable {files others : Files} {directory root key : Location} {config : Config}
  {registry : Registry} {lookup : Lookup} {target : String}

theorem envelope_verdict {loaded other : Loaded} (same : loaded.verdict = other.verdict)
    (question : Question) : question.envelope loaded = question.envelope other := by
  obtain ⟨catalog, confidence, warnings, _, _⟩ := loaded
  obtain ⟨otherCatalog, otherConfidence, otherWarnings, _, _⟩ := other
  simp only [Loaded.verdict, Verdict.mk.injEq] at same
  obtain ⟨rfl, rfl, rfl⟩ := same
  rfl

/-- What comes of a question for which a schema was loaded. -/
def Question.outcome (question : Question) :
    Except (List Wire.Fault) Loaded → Except LookupFault Envelope
  | .ok loaded => .ok (question.envelope loaded)
  | .error faults => .error (.warning faults)

theorem outcome_verdict {outcome other : Except (List Wire.Fault) Loaded}
    (same : outcome.map Loaded.verdict = other.map Loaded.verdict) (question : Question) :
    question.outcome outcome = question.outcome other := by
  cases outcome <;> cases other <;>
    simp only [Except.map, Except.ok.injEq, Except.error.injEq, reduceCtorEq] at same
  · rw [same]
  · simp only [Question.outcome, envelope_verdict same]

/-- A lookup either leaves the registry alone and answers without it, or loads one schema and answers
one question about it. -/
theorem lookup_cases (files : Files) (directory : Location) (config : Config) (lookup : Lookup) :
    (∃ outcome, ∀ registry,
        lookupSchema files directory config registry lookup = (outcome, registry)) ∨
      ∃ path question, schemaPath? files config lookup = .ok (some path) ∧
        lookup.questions = [question] ∧ ∀ registry,
          lookupSchema files directory config registry lookup =
            (question.outcome (registry.load files directory path).1,
              (registry.load files directory path).2) := by
  unfold lookupSchema
  cases schemaPath? files config lookup with
  | error fault =>
      cases fault with
      | refused refusal => exact Or.inl ⟨_, fun _ => rfl⟩
      | blocked obstacle => exact Or.inl ⟨_, fun _ => rfl⟩
  | ok path? =>
      cases path? with
      | none => exact Or.inl ⟨_, fun _ => rfl⟩
      | some path =>
          match lookup.questions with
          | [] => exact Or.inl ⟨_, fun _ => rfl⟩
          | [question] =>
              refine Or.inr ⟨path, question, rfl, rfl, fun registry => ?_⟩
              dsimp only
              cases registry.load files directory path with
              | mk outcome after => cases outcome <;> rfl
          | _ :: _ :: _ => exact Or.inl ⟨_, fun _ => rfl⟩

/-- The file that a lookup looks at, by the location that the registry keeps it under: the lookup
asks one thing, its path is resolved to that location, and something is there. -/
structure Consults (files : Files) (directory : Location) (config : Config) (lookup : Lookup)
    (key : Location) : Prop where
  path : ∃ path, schemaPath? files config lookup = .ok (some path) ∧
    files.resolveLenient directory path.toList = .ok key
  question : ∃ question, lookup.questions = [question]
  shown : ∃ node, files.status (key : Absolute) = .ok node

theorem lookup_entry {entry : Location × Copy}
    (member : entry ∈ (lookupSchema files directory config registry lookup).2.copies) :
    entry ∈ registry.copies ∨ Consults files directory config lookup entry.1 := by
  rcases lookup_cases files directory config lookup with
    ⟨outcome, same⟩ | ⟨path, question, given, asked, loads⟩
  · rw [same] at member
    exact Or.inl member
  · rw [loads] at member
    dsimp only at member
    unfold Registry.load at member
    cases resolved : files.resolveLenient directory path.toList with
    | error unresolved =>
        rw [resolved] at member
        exact Or.inl member
    | ok place =>
        rw [resolved] at member
        rcases Registry.load_at_entry member with old | ⟨here, shown⟩
        · exact Or.inl old
        · rw [← here] at resolved shown
          exact Or.inr ⟨⟨path, given, resolved⟩, ⟨question, asked⟩, shown⟩

/-! ### Paths that are given -/

theorem resolve_lenient_text (files : Files) (directory : Location) (place : Absolute) :
    files.resolveLenient directory place.text.toList = files.resolveLenient [] place.chars := by
  simp [Files.resolveLenient, Files.startOf, Absolute.text, Path.chars_head]

theorem schema_path_given (given : firstGiven? [lookup.schemaPath?] = some target) :
    schemaPath? files config lookup =
      (Sandbox.resolve files config.root target).map fun place => some place.text := by
  simp only [schemaPath?, given]

/-- With a given path a lookup looks at what the place handed back for it is resolved to. -/
theorem consults_given (given : firstGiven? [lookup.schemaPath?] = some target) :
    Consults files directory config lookup key ↔
      (∃ place, Sandbox.resolve files config.root target = .ok place ∧
        files.resolveLenient [] place.chars = .ok key) ∧
      (∃ question, lookup.questions = [question]) ∧
      ∃ node, files.status (key : Absolute) = .ok node := by
  constructor
  · rintro ⟨⟨path, found, resolved⟩, asked, shown⟩
    refine ⟨?_, asked, shown⟩
    rw [schema_path_given given] at found
    cases handed : Sandbox.resolve files config.root target with
    | error fault =>
        rw [handed] at found
        cases found
    | ok place =>
        rw [handed] at found
        cases found
        rw [resolve_lenient_text] at resolved
        exact ⟨place, rfl, resolved⟩
  · rintro ⟨⟨place, handed, resolved⟩, asked, shown⟩
    refine ⟨⟨place.text, ?_, ?_⟩, asked, shown⟩
    · rw [schema_path_given given, handed]
      rfl
    · rw [resolve_lenient_text, resolved]

theorem load_alike (alike : Files.Alike files others) (place : Absolute)
    (same : ∀ key node, files.resolveLenient [] place.chars = .ok key →
      files.status (key : Absolute) = .ok node →
        files.status (key : Absolute) = others.status (key : Absolute)) :
    registry.load files directory place.text = registry.load others directory place.text := by
  unfold Registry.load
  rw [resolve_lenient_text, resolve_lenient_text,
    ← Files.resolve_lenient_alike alike (Files.settled_top files)]
  cases resolved : files.resolveLenient [] place.chars with
  | error unresolved => rfl
  | ok key =>
      refine Registry.load_at_status registry ?_
      cases shown : files.status (key : Absolute) with
      | error fault => rw [Files.status_error_alike alike shown]
      | ok node =>
          rw [← shown]
          exact same key node resolved shown

/-- A lookup of a given path answers the same in two trees that are alike, if the file that it looks
at shows the same in both. -/
theorem lookup_alike (alike : Files.Alike files others)
    (given : firstGiven? [lookup.schemaPath?] = some target)
    (same : ∀ key, Consults files directory config lookup key →
      files.status (key : Absolute) = others.status (key : Absolute)) :
    lookupSchema files directory config registry lookup =
      lookupSchema others directory config registry lookup := by
  unfold lookupSchema
  rw [schema_path_given given, schema_path_given given, ← Sandbox.resolve_alike alike]
  cases handed : Sandbox.resolve files config.root target with
  | error fault => cases fault <;> rfl
  | ok place =>
      simp only [Except.map]
      match asked : lookup.questions with
      | [] => rfl
      | [question] =>
          have loads : registry.load files directory place.text =
              registry.load others directory place.text := by
            refine load_alike alike place fun key node resolved shown => same key ?_
            exact (consults_given given).2 ⟨⟨place, handed, resolved⟩, ⟨question, asked⟩, node,
              shown⟩
          dsimp only
          rw [loads]
      | _ :: _ :: _ => rfl

/-! ### Within the root -/

/-- All that a lookup has to do with a file lies within the root: the location that it is kept under
and the file itself. What the files outside hold is nothing to its answer. -/
structure Confined (files : Files) (directory : Location) (config : Config) (registry : Registry)
    (lookup : Lookup) (root : Location) : Prop where
  key_within : ∀ key, Consults files directory config lookup key → isWithin key root = true
  file_within : ∀ key file, Consults files directory config lookup key →
    files.locate true (key : Absolute) = .ok file → isWithin file root = true
  kept_within : ∀ entry ∈ (lookupSchema files directory config registry lookup).2.copies,
    entry ∈ registry.copies ∨ isWithin entry.1 root = true
  unseen : ∀ others, AgreeWithin files others root →
    lookupSchema files directory config registry lookup =
      lookupSchema others directory config registry lookup

/-- A link that leads nowhere is on the way of what is handed back for a target. Once missing names
are passed over, it leads to a file which is kept under a location outside of the root or is outside
itself. -/
def LedOut (files : Files) (rootPath : String) (root : Location) (target : String) : Prop :=
  ∃ (way : Absolute) (link : BlindLink files way) (key file : Location),
    Sandbox.resolve files rootPath target = .ok way ∧
      files.resolveLenient [] (link.onward : Absolute).chars = .ok key ∧
      files.locate true (key : Absolute) = .ok file ∧ (files.node? file).isSome = true ∧
      (isWithin key root = false ∨ isWithin file root = false)

/-- A lookup of a given path is confined to the root exactly if it asks no single thing or its path
does not lead out past missing names. -/
theorem lookup_confined_iff (usable : canonicalRoot files config.root = .ok root)
    (given : firstGiven? [lookup.schemaPath?] = some target) :
    Confined files directory config registry lookup root ↔
      ¬((∃ question, lookup.questions = [question]) ∧
        LedOut files config.root root target) := by
  constructor
  · rintro confined ⟨asked, way, link, key, file, handed, onward, located, present, outside⟩
    rw [Sandbox.resolve_onward usable handed link] at onward
    obtain ⟨node, stands⟩ := Option.isSome_iff_exists.1 present
    have consulted : Consults files directory config lookup key := (consults_given given).2
      ⟨⟨way, handed, onward⟩, asked, node, Files.status_ok_iff.2 ⟨file, located, stands⟩⟩
    rcases outside with keyOutside | fileOutside
    · rw [confined.key_within key consulted] at keyOutside
      cases keyOutside
    · rw [confined.file_within key file consulted located] at fileOutside
      cases fileOutside
  · intro notLed
    have within (key : Location) (consulted : Consults files directory config lookup key) :
        ∃ file, files.locate true (key : Absolute) = .ok file ∧
          isWithin key root = true ∧ isWithin file root = true := by
      obtain ⟨⟨way, handed, resolved⟩, asked, node, shown⟩ := (consults_given given).1 consulted
      obtain ⟨file, located, stands⟩ := Files.status_ok_iff.1 shown
      refine ⟨file, located, ?_⟩
      rcases Sandbox.resolve_kept_or_blind usable handed resolved with kept | ⟨⟨link⟩⟩
      · rcases kept.settled with firm | ⟨fault, failed⟩
        · rw [Files.firm_locate firm] at located
          cases located
          exact ⟨kept.inside, kept.inside⟩
        · rw [shown] at failed
          cases failed
      · have onward := (Sandbox.resolve_onward usable handed link).trans resolved
        have notOutside : ¬(isWithin key root = false ∨ isWithin file root = false) :=
          fun outside => notLed ⟨asked, way, link, key, file, handed, onward, located,
            by rw [stands]; rfl, outside⟩
        simpa using notOutside
    refine ⟨?_, ?_, ?_, ?_⟩
    · intro key consulted
      obtain ⟨_, _, keyInside, _⟩ := within key consulted
      exact keyInside
    · intro key other consulted otherLocated
      obtain ⟨file, located, _, fileInside⟩ := within key consulted
      rw [located] at otherLocated
      cases otherLocated
      exact fileInside
    · intro entry member
      rcases lookup_entry member with old | consulted
      · exact Or.inl old
      · obtain ⟨_, _, keyInside, _⟩ := within entry.1 consulted
        exact Or.inr keyInside
    · intro others agree
      refine lookup_alike agree.alike given fun key consulted => ?_
      obtain ⟨file, located, _, fileInside⟩ := within key consulted
      exact Files.status_same agree.alike located (agree.same file fileInside)

def linkAndFile (aim : String) (file : Location) : Files :=
  ⟨[([['r']], .directory none), ([['r'], ['l']], .link aim.toList), (file, .file [] 0)]⟩

/-- A link that names something missing and goes up again leads to a file in the root, and a lookup
of it is confined. -/
theorem link_past_absent_confined :
    let files := linkAndFile "n/../x" [['r'], ['x']]
    let config : Config := ⟨"/r", none, "", []⟩
    let lookup : Lookup := ⟨some "l", none, none, some "Q"⟩
    canonicalRoot files config.root = .ok [['r']] ∧
      firstGiven? [lookup.schemaPath?] = some "l" ∧
      Consults files [] config lookup [['r'], ['x']] ∧
      Confined files [] config .empty lookup [['r']] := by
  intro files config lookup
  have usable : canonicalRoot files config.root = .ok [['r']] := by decide +kernel +revert
  have given : firstGiven? [lookup.schemaPath?] = some "l" := rfl
  have handed : Sandbox.resolve files config.root "l" = .ok ([['r'], ['l']] : Location) := by
    decide +kernel +revert
  have followed : files.resolveLenient [] (([['r'], ['l']] : Location) : Absolute).chars =
      .ok [['r'], ['x']] := by decide +kernel +revert
  have located : files.locate true (([['r'], ['x']] : Location) : Absolute) =
      .ok [['r'], ['x']] := by decide +kernel +revert
  have shown : files.status (([['r'], ['x']] : Location) : Absolute) = .ok (.file [] 0) := by
    decide +kernel +revert
  have asked : lookup.questions = [.search "Q"] := rfl
  refine ⟨usable, given, ?_, (lookup_confined_iff usable given).2 ?_⟩
  · exact (consults_given given).2 ⟨⟨_, handed, followed⟩, ⟨_, asked⟩, _, shown⟩
  · rintro ⟨_, way, link, key, file, found, onward, led, _, outside⟩
    rw [Sandbox.resolve_onward usable found link] at onward
    rw [handed] at found
    cases found
    rw [followed] at onward
    cases onward
    rw [located] at led
    cases led
    revert outside
    decide

/-- The same link, going up once more, makes a lookup look at a file outside of the root. -/
theorem link_past_absent_escapes :
    let files := linkAndFile "n/../../s" [['s']]
    let config : Config := ⟨"/r", none, "", []⟩
    let lookup : Lookup := ⟨some "l", none, none, some "Q"⟩
    canonicalRoot files config.root = .ok [['r']] ∧
      firstGiven? [lookup.schemaPath?] = some "l" ∧
      Consults files [] config lookup [['s']] ∧ isWithin [['s']] [['r']] = false := by
  intro files config lookup
  have usable : canonicalRoot files config.root = .ok [['r']] := by decide +kernel +revert
  have given : firstGiven? [lookup.schemaPath?] = some "l" := rfl
  have handed : Sandbox.resolve files config.root "l" = .ok ([['r'], ['l']] : Location) := by
    decide +kernel +revert
  have followed : files.resolveLenient [] (([['r'], ['l']] : Location) : Absolute).chars =
      .ok [['s']] := by decide +kernel +revert
  have shown : files.status (([['s']] : Location) : Absolute) = .ok (.file [] 0) := by
    decide +kernel +revert
  have asked : lookup.questions = [.search "Q"] := rfl
  refine ⟨usable, given, ?_, rfl⟩
  exact (consults_given given).2 ⟨⟨_, handed, followed⟩, ⟨_, asked⟩, _, shown⟩

end StorefrontSurvey.Tools
