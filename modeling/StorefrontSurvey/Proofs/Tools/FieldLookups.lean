import Mathlib.Data.List.TakeWhile
import StorefrontSurvey.Proofs.Schema.Catalogs
import StorefrontSurvey.Proofs.Tools.Degradation
/-!
Two ways to a field: it is listed with its type, and it is found by a reference. As the names in a
catalog are free of dots and tell types and fields apart, both ways lead to the same answer.
-/
namespace StorefrontSurvey.Schema

/-! ### Fields of a catalog -/

/-- What is looked for by a key that nothing else has is found. -/
theorem find_keyed {α : Type} {key : α → String} {list : List α} {a : α}
    (distinct : (list.map key).Nodup) (member : a ∈ list) :
    list.find? (fun b => key b == key a) = some a := by
  induction list with
  | nil => cases member
  | cons first rest ih =>
      rw [List.map_cons, List.nodup_cons] at distinct
      rcases List.mem_cons.1 member with rfl | later
      · simp
      · have differs : key first ≠ key a := fun same =>
          distinct.1 (same ▸ List.mem_map_of_mem later)
        rw [List.find?_cons_of_neg (by simpa using differs)]
        exact ih distinct.2 later

theorem Catalog.type_eq_some {c : Catalog} {name : String} {t : NamedType} :
    c.type? name = some t ↔ t ∈ c.types ∧ t.name = name := by
  constructor
  · exact found_by_key
  · rintro ⟨member, rfl⟩
    exact find_keyed c.names_nodup member

theorem Catalog.field_eq_some {c : Catalog} {type name : String} {f : Field} :
    c.field? type name = some f ↔
      ∃ t ∈ c.types, t.name = type ∧ f ∈ t.fields ∧ f.name = name := by
  rw [Catalog.field?, Option.bind_eq_some_iff]
  constructor
  · rintro ⟨t, found, here⟩
    obtain ⟨member, named⟩ := Catalog.type_eq_some.1 found
    exact ⟨t, member, named, found_by_key here⟩
  · rintro ⟨t, member, named, here, rfl⟩
    refine ⟨t, Catalog.type_eq_some.2 ⟨member, named⟩, ?_⟩
    exact find_keyed (c.fit t member).fielded.distinct here

end StorefrontSurvey.Schema

namespace StorefrontSurvey.Tools

open StorefrontSurvey.Path (Location)
open Wire (Envelope)
open Schema (Registry Loaded Catalog NamedType isName)

/-! ### References -/

/-- A text that can stand on one side of a reference's dot. -/
structure Side (text : String) : Prop where
  given : text ≠ ""
  dotless : '.' ∉ text.toList

theorem side_of_name {text : String} (named : isName text = true) : Side text := by
  unfold isName at named
  split at named
  · cases named
  case h_2 c rest spelled =>
    obtain ⟨starts, parts⟩ := Bool.and_eq_true_iff.1 named
    refine ⟨?_, ?_⟩
    · rintro rfl
      cases spelled
    · rw [spelled]
      rintro (_ | ⟨_, later⟩)
      · cases starts
      · cases List.all_eq_true.1 parts _ later

def reference (type field : String) : String := type ++ "." ++ field

theorem reference_chars (type field : String) :
    (reference type field).toList = type.toList ++ '.' :: field.toList := by
  simp [reference]

theorem before_dot {chars : List Char} (more : List Char) (dotless : '.' ∉ chars) :
    (chars ++ '.' :: more).takeWhile (· ≠ '.') = chars ∧
      (chars ++ '.' :: more).dropWhile (· ≠ '.') = '.' :: more := by
  have plain : ∀ c ∈ chars, decide (c ≠ '.') = true := by
    rintro c member
    exact decide_eq_true fun dot => dotless (dot ▸ member)
  rw [List.takeWhile_append_of_pos plain, List.dropWhile_append_of_pos plain]
  simp

theorem around_dot {chars : List Char} (more : (chars.dropWhile (· ≠ '.')).drop 1 ≠ []) :
    chars = chars.takeWhile (· ≠ '.') ++ '.' :: (chars.dropWhile (· ≠ '.')).drop 1 := by
  induction chars with
  | nil => exact absurd rfl more
  | cons c rest ih =>
      by_cases dot : c = '.'
      · simp [dot]
      · have passed : decide (c ≠ '.') = true := decide_eq_true dot
        simp only [List.dropWhile_cons, passed, if_true] at more
        simp only [List.dropWhile_cons, List.takeWhile_cons, passed, if_true, List.cons_append]
        rw [← ih more]

theorem side_of_chars {chars : List Char} (given : chars ≠ []) (dotless : '.' ∉ chars) :
    Side (String.ofList chars) := by
  refine ⟨fun same => given ?_, by rwa [String.toList_ofList]⟩
  rw [← String.toList_ofList (l := chars), same]
  rfl

/-- A text is split into both sides of its only dot. -/
theorem split_reference_iff {text type field : String} :
    splitReference? text = some (type, field) ↔
      text = reference type field ∧ Side type ∧ Side field := by
  unfold splitReference?
  dsimp only
  constructor
  · intro split
    split_ifs at split with empty
    obtain ⟨rfl, rfl⟩ := Prod.mk.inj (Option.some.inj split)
    simp only [not_or] at empty
    obtain ⟨someType, someField, dotless⟩ := empty
    refine ⟨?_, side_of_chars someType ?_, side_of_chars someField dotless⟩
    · rw [← String.toList_inj, reference_chars, String.toList_ofList, String.toList_ofList]
      exact around_dot someField
    · intro dot
      have passed := List.mem_takeWhile_imp dot
      simp at passed
  · rintro ⟨rfl, ⟨type_ne, type_dotless⟩, field_ne, field_dotless⟩
    obtain ⟨before, after⟩ := before_dot field.toList type_dotless
    rw [reference_chars, before, after]
    simp [type_ne, field_ne, field_dotless]

theorem split_reference_names {type field : String} (typeNamed : isName type = true)
    (fieldNamed : isName field = true) :
    splitReference? (reference type field) = some (type, field) :=
  split_reference_iff.2 ⟨rfl, side_of_name typeNamed, side_of_name fieldNamed⟩

/-! ### Answers -/

variable {files : Files} {directory : Location} {config : Config} {registry : Registry}
  {loaded : Loaded} {schema? : Option String} {question : Question} {s : Wire.Success}

/-- The answer that a field of a type gets by itself. -/
def fieldAnswer (type : String) (f : Wire.Field) : Wire.FieldAnswer :=
  ⟨type, f.name, f.returnType, f.args⟩

/-- Data with all that a schema says of itself. -/
def toldBy (loaded : Loaded) (data : Json) : Wire.Success :=
  ⟨data, loaded.confidence, Wire.someWarnings loaded.warnings⟩

/-- The answer to a type: it is an object type, and all its fields are described. -/
theorem type_answered_iff {name : String} :
    typeEnvelope loaded name = .success s ↔
      ∃ t ∈ loaded.catalog.types, t.name = name ∧ t.kind = .object ∧
        s = toldBy loaded
          (Wire.write (⟨name, t.fields.map Schema.Field.describe⟩ : Wire.TypeAnswer)) := by
  unfold typeEnvelope
  constructor
  · intro answered
    split at answered
    · cases answered
    case h_2 t found =>
      obtain ⟨member, named⟩ := Catalog.type_eq_some.1 found
      split_ifs at answered with object
      · exact ⟨t, member, named, object, (Envelope.success.inj answered).symm⟩
      · cases answered
  · rintro ⟨t, member, named, object, rfl⟩
    rw [Catalog.type_eq_some.2 ⟨member, named⟩]
    dsimp only
    rw [if_pos object]
    rfl

/-- The answer to a reference: it leads to a field of some type, which is described. -/
theorem field_answered_iff {text : String} :
    fieldEnvelope loaded text = .success s ↔
      ∃ t ∈ loaded.catalog.types, ∃ f ∈ t.fields, text = reference t.name f.name ∧
        s = toldBy loaded (Wire.write (fieldAnswer t.name f.describe)) := by
  unfold fieldEnvelope
  constructor
  · intro answered
    split at answered
    · cases answered
    case h_2 type name split =>
      split at answered
      · cases answered
      case h_2 f found =>
        obtain ⟨t, member, rfl, here, rfl⟩ := Catalog.field_eq_some.1 found
        obtain ⟨same, _⟩ := split_reference_iff.1 split
        exact ⟨t, member, f, here, same, (Envelope.success.inj answered).symm⟩
  · rintro ⟨t, member, f, here, rfl, rfl⟩
    have fit := loaded.catalog.fit t member
    have split := split_reference_names fit.named (fit.fielded.named f here)
    have found : loaded.catalog.field? t.name f.name = some f :=
      Catalog.field_eq_some.2 ⟨t, member, rfl, here, rfl⟩
    simp only [split, found]
    rfl

/-! ### Lookups of one thing -/

def Question.lookup (schema? : Option String) : Question → Lookup
  | .type name => ⟨schema?, some name, none, none⟩
  | .field reference => ⟨schema?, none, some reference, none⟩
  | .search text => ⟨schema?, none, none, some text⟩

def ask (files : Files) (directory : Location) (config : Config) (schema? : Option String)
    (registry : Registry) (question : Question) : Except LookupFault Envelope × Registry :=
  lookupSchema files directory config registry (question.lookup schema?)

/-- What lookups find where the path of a schema leads. -/
def Finds (files : Files) (directory : Location) (config : Config) (schema? : Option String)
    (registry : Registry) (loaded : Loaded) : Prop :=
  ∃ path, schemaPath? files config ⟨schema?, none, none, none⟩ = .ok (some path) ∧
    (registry.load files directory path).1 = .ok loaded

def Question.text : Question → String
  | .type name => name
  | .field reference => reference
  | .search text => text

theorem lookup_path (files : Files) (config : Config) (schema? : Option String)
    (question : Question) : schemaPath? files config (question.lookup schema?) =
      schemaPath? files config ⟨schema?, none, none, none⟩ := by
  cases question <;> rfl

theorem lookup_questions (schema? : Option String) (question : Question) :
    (question.lookup schema?).questions = if question.text = "" then [] else [question] := by
  cases question with
  | type text | field text | search text =>
      by_cases empty : text = "" <;>
        simp [Question.lookup, Lookup.questions, Question.text, firstGiven?, empty]

theorem ask_found (finds : Finds files directory config schema? registry loaded)
    (given : question.text ≠ "") :
    (ask files directory config schema? registry question).1 = .ok (question.envelope loaded) := by
  obtain ⟨path, found, loads⟩ := finds
  have asked := lookup_questions schema? question
  rw [if_neg given] at asked
  rw [← lookup_path files config schema? question] at found
  rw [ask, lookup_asked found asked, loads]
  rfl

theorem ask_success
    (answered : (ask files directory config schema? registry question).1 = .ok (.success s)) :
    ∃ loaded, Finds files directory config schema? registry loaded ∧
      question.envelope loaded = .success s := by
  have step := lookup_step files directory config registry (question.lookup schema?)
  unfold ask at answered
  generalize (lookupSchema files directory config registry (question.lookup schema?)).1 = outcome
    at step answered
  cases step with
  | early | handedOn => cases answered
  | @asked path other found single =>
      obtain rfl : question = other := by
        rw [lookup_questions] at single
        split_ifs at single
        exact List.singleton_inj.1 single
      rw [lookup_path] at found
      cases loads : (registry.load files directory path).1 with
      | error faults =>
          rw [loads] at answered
          cases answered
      | ok loaded =>
          rw [loads] at answered
          exact ⟨loaded, ⟨path, found, loads⟩, Except.ok.inj answered⟩

/-! ### Lookups one after another -/

theorem loaded_of_verdict {outcome : Except (List Wire.Fault) Loaded} {verdict : Schema.Verdict}
    (same : outcome.map Loaded.verdict = .ok verdict) :
    ∃ loaded, outcome = .ok loaded ∧ loaded.verdict = verdict := by
  cases outcome with
  | error faults => cases same
  | ok loaded => exact ⟨loaded, rfl, Except.ok.inj same⟩

/-- One more load says the same of the schema, whether it was kept or failed. -/
theorem load_later {path : String}
    (answered : (registry.load files directory path).1 = .ok loaded) :
    ∃ again, ((registry.load files directory path).2.load files directory path).1 = .ok again ∧
      again.verdict = loaded.verdict := by
  have stays := Registry.load_stays registry files directory path path
  rw [answered] at stays
  exact loaded_of_verdict stays

/-- A registry as it is, or as another lookup in the same schema leaves it. -/
def After (files : Files) (directory : Location) (config : Config) (schema? : Option String)
    (registry later : Registry) : Prop :=
  later = registry ∨
    ∃ question, later = (ask files directory config schema? registry question).2

theorem finds_after {later : Registry}
    (finds : Finds files directory config schema? registry loaded)
    (after : After files directory config schema? registry later) :
    ∃ again, Finds files directory config schema? later again ∧
      again.verdict = loaded.verdict := by
  rcases after with rfl | ⟨question, rfl⟩
  · exact ⟨loaded, finds, rfl⟩
  · unfold ask
    rcases lookup_cases files directory config (question.lookup schema?) with
      ⟨outcome, same⟩ | ⟨path, asked, found, _, step⟩
    · rw [same]
      exact ⟨loaded, finds, rfl⟩
    · obtain ⟨other, given, loads⟩ := finds
      rw [lookup_path] at found
      obtain rfl : other = path := Option.some.inj (Except.ok.inj (given.symm.trans found))
      obtain ⟨again, later, same⟩ := load_later loads
      rw [step]
      exact ⟨again, ⟨other, given, later⟩, same⟩

theorem ask_after {later : Registry}
    (finds : Finds files directory config schema? registry loaded)
    (after : After files directory config schema? registry later) (given : question.text ≠ "") :
    (ask files directory config schema? later question).1 = .ok (question.envelope loaded) := by
  obtain ⟨again, found, same⟩ := finds_after finds after
  rw [ask_found found given, envelope_verdict same]

theorem finds_unique {other : Loaded}
    (finds : Finds files directory config schema? registry loaded)
    (too : Finds files directory config schema? registry other) : loaded = other := by
  obtain ⟨path, found, loads⟩ := finds
  obtain ⟨otherPath, otherFound, otherLoads⟩ := too
  obtain rfl : path = otherPath := Option.some.inj (Except.ok.inj (found.symm.trans otherFound))
  exact Except.ok.inj (loads.symm.trans otherLoads)

/-! ### Agreement -/

/-- A question is answered with a success, now and after any other lookup in the same schema. -/
def Answered (files : Files) (directory : Location) (config : Config) (schema? : Option String)
    (registry : Registry) (question : Question) (s : Wire.Success) : Prop :=
  ∀ later, After files directory config schema? registry later →
    (ask files directory config schema? later question).1 = .ok (.success s)

theorem answered_of_finds (finds : Finds files directory config schema? registry loaded)
    (given : question.text ≠ "") (success : question.envelope loaded = .success s) :
    Answered files directory config schema? registry question s := by
  intro later after
  rw [ask_after finds after given, success]

theorem reference_ne_empty (type field : String) : reference type field ≠ "" := by
  intro same
  have chars := reference_chars type field
  rw [same] at chars
  exact absurd chars.symm (by simp)

/-- Whatever field a schema has, its reference is answered with its description. -/
theorem reference_answered (finds : Finds files directory config schema? registry loaded)
    {t : NamedType} (member : t ∈ loaded.catalog.types) {f : Schema.Field} (here : f ∈ t.fields) :
    Answered files directory config schema? registry (.field (reference t.name f.name))
      (toldBy loaded (Wire.write (fieldAnswer t.name f.describe))) :=
  answered_of_finds finds (reference_ne_empty _ _)
    (field_answered_iff.2 ⟨t, member, f, here, rfl, rfl⟩)

/-- Both ways to a field agree, with or without another lookup in between. -/
structure LookupsAgree (files : Files) (directory : Location) (config : Config)
    (schema? : Option String) (registry : Registry) : Prop where
  /-- A type is answered with fields that their references are answered with. -/
  listed : ∀ type s,
    (ask files directory config schema? registry (.type type)).1 = .ok (.success s) →
      ∃ fields, s.data = Wire.write (⟨type, fields⟩ : Wire.TypeAnswer) ∧
        ∀ field ∈ fields,
          Answered files directory config schema? registry (.field (reference type field.name))
            { s with data := Wire.write (fieldAnswer type field) }
  /-- A reference is answered with a field that its type is answered with, if it is an object. -/
  referred : ∀ text s,
    (ask files directory config schema? registry (.field text)).1 = .ok (.success s) →
      ∃ type field, text = reference type field.name ∧
        s.data = Wire.write (fieldAnswer type field) ∧
        ∀ loaded t, Finds files directory config schema? registry loaded →
          loaded.catalog.type? type = some t → t.kind = .object →
            ∃ fields, field ∈ fields ∧
              Answered files directory config schema? registry (.type type)
                { s with data := Wire.write (⟨type, fields⟩ : Wire.TypeAnswer) }
  /-- No reference to a type is turned away for its form. -/
  formed : ∀ loaded, Finds files directory config schema? registry loaded →
    ∀ t ∈ loaded.catalog.types, ∀ name, isName name = true →
      splitReference? (reference t.name name) = some (t.name, name)
  /-- No reference to a field that is there is turned away at all. -/
  reached : ∀ loaded, Finds files directory config schema? registry loaded →
    ∀ t ∈ loaded.catalog.types, ∀ f ∈ t.fields,
      Answered files directory config schema? registry (.field (reference t.name f.name))
        (toldBy loaded (Wire.write (fieldAnswer t.name f.describe)))

theorem registry_lookups_agree (files : Files) (directory : Location) (config : Config)
    (schema? : Option String) (registry : Registry) :
    LookupsAgree files directory config schema? registry where
  listed type s answered := by
    obtain ⟨loaded, finds, same⟩ := ask_success answered
    obtain ⟨t, member, rfl, _, rfl⟩ := type_answered_iff.1 same
    refine ⟨_, rfl, fun field among => ?_⟩
    obtain ⟨f, here, rfl⟩ := List.mem_map.1 among
    exact reference_answered finds member here
  referred text s answered := by
    obtain ⟨loaded, finds, same⟩ := ask_success answered
    obtain ⟨t, member, f, here, rfl, rfl⟩ := field_answered_iff.1 same
    refine ⟨t.name, f.describe, rfl, rfl, fun other found too known object => ?_⟩
    obtain rfl := finds_unique finds too
    obtain rfl : t = found :=
      Option.some.inj ((Catalog.type_eq_some.2 ⟨member, rfl⟩).symm.trans known)
    refine ⟨t.fields.map Schema.Field.describe, List.mem_map_of_mem here, ?_⟩
    exact answered_of_finds finds (side_of_name (loaded.catalog.fit t member).named).given
      (type_answered_iff.2 ⟨t, member, rfl, object, rfl⟩)
  formed loaded _ t member name named :=
    split_reference_names (loaded.catalog.fit t member).named named
  reached loaded finds t member f here := reference_answered finds member here

/-- In every registry both ways to a field agree. The demands of a catalog that this rests on turn
no schema away: a document that can be read and keeps all rules has a catalog of the types that it
defines, and an introspection result has one of the types that it describes. -/
theorem lookups_agree (files : Files) (directory : Location) (config : Config)
    (schema? : Option String) (registry : Registry) :
    LookupsAgree files directory config schema? registry ∧
      (∀ text catalog, Catalog.ofText text = .ok catalog ↔
        ∃ doc, Schema.Document.parse text = .ok doc ∧ Schema.violations doc = [] ∧
          Schema.schemaTypes doc = .ok catalog.types) ∧
      ∀ result catalog, Catalog.ofIntrospection result = .ok catalog ↔
        Schema.introspectedTypes result = .ok catalog.types :=
  ⟨registry_lookups_agree files directory config schema? registry,
    fun _ _ => Schema.of_text_ok_iff, fun _ _ => Schema.of_introspection_ok_iff⟩

end StorefrontSurvey.Tools
