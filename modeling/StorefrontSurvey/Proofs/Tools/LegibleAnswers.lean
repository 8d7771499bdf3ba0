import StorefrontSurvey.Proofs.Json.ReadBack
import StorefrontSurvey.Proofs.Tools.Degradation
/-!
The envelopes of the tools hold no numbers, name no member twice and are only a few levels deep, so
that they are legible, whatever texts stand in them. This is shown form by form, from the parts of an
answer up to its envelope.
-/
namespace StorefrontSurvey.Wire

open Json (Legible)

/-- All values of a type are written legibly, within so many levels. -/
def WritesWithin (levels : Nat) (α : Type) [Wire α] : Prop :=
  ∀ value : α, Legible levels (write value)

section Forms

variable {levels : Nat} {α : Type} [Wire α]

theorem string_writes (levels : Nat) : WritesWithin levels String := fun s => .str levels s

theorem list_writes (each : WritesWithin levels α) : WritesWithin (levels + 1) (List α) := by
  intro items
  apply Legible.arr
  intro item member
  obtain ⟨value, _, rfl⟩ := List.mem_map.1 member
  exact each value

theorem given_writes {json : Json} (legible : Legible levels json) :
    ∀ value ∈ some json, Legible levels value := by
  intro value same
  rwa [← Option.mem_some.1 same]

theorem optional_writes (each : WritesWithin levels α) (value? : Option α) :
    ∀ value ∈ value?.map write, Legible levels value := by
  intro value member
  obtain ⟨source, _, rfl⟩ := Option.map_eq_some_iff.1 member
  exact each source

theorem unless_null_writes {json : Json} (legible : Legible levels json) :
    ∀ value ∈ json.unlessNull, Legible levels value := by
  cases json with
  | null => intro value same; cases same
  | _ => exact given_writes legible

theorem given_names_sublist (fields : List (String × Option Json)) :
    ((fields.filterMap fun field => field.2.map fun value => (field.1, value)).map
      Prod.fst).Sublist (fields.map Prod.fst) := by
  induction fields with
  | nil => exact .slnil
  | cons field fields ih =>
      obtain ⟨name, json?⟩ := field
      cases json? with
      | none => exact ih.cons name
      | some json => exact ih.cons_cons name

/-- An object is legible if its fields have different names and those that are given are legible. -/
theorem legible_of_fields {fields : List (String × Option Json)}
    (distinct : (fields.map Prod.fst).Nodup)
    (each : ∀ field ∈ fields, ∀ value ∈ field.2, Legible levels value) :
    Legible (levels + 1) (Json.ofFields fields) := by
  apply Legible.obj (distinct.sublist (given_names_sublist fields))
  intro member within
  obtain ⟨field, listed, found⟩ := List.mem_filterMap.1 within
  obtain ⟨value, given, rfl⟩ := Option.map_eq_some_iff.1 found
  exact each field listed value given

end Forms

/-! ### Routes and outlines -/

theorem route_kind_writes : WritesWithin 0 Routes.RouteKind := by
  intro kind
  cases kind
  all_goals exact .str 0 _

theorem route_writes : WritesWithin 1 Routes.Route := by
  intro route
  apply legible_of_fields (by simp)
  simp only [List.forall_mem_cons]
  exact ⟨given_writes (.str 0 _), given_writes (.str 0 _), given_writes (route_kind_writes _),
    optional_writes (string_writes 0) _, List.forall_mem_nil _⟩

theorem names_write : WritesWithin 1 (List String) := list_writes (string_writes 0)

theorem exports_write : WritesWithin 2 Outline.Exports := by
  intro exports
  apply legible_of_fields (by simp)
  simp only [List.forall_mem_cons]
  exact ⟨optional_writes (string_writes 1) _, given_writes (names_write _), List.forall_mem_nil _⟩

theorem symbols_write : WritesWithin 2 Outline.Symbols := by
  intro symbols
  apply Legible.obj (by simp)
  simp only [List.forall_mem_cons]
  exact ⟨names_write _, names_write _, names_write _, names_write _, List.forall_mem_nil _⟩

theorem outline_writes : WritesWithin 3 Outline := by
  intro outline
  apply Legible.obj (by simp)
  simp only [List.forall_mem_cons]
  exact ⟨(names_write _).more (by decide), exports_write _, symbols_write _, List.forall_mem_nil _⟩

/-! ### Schema lookups -/

theorem argument_writes : WritesWithin 1 Argument := by
  intro argument
  apply Legible.obj (by simp)
  simp only [List.forall_mem_cons]
  exact ⟨.str 0 _, .str 0 _, List.forall_mem_nil _⟩

theorem arguments_write : WritesWithin 2 (List Argument) := list_writes argument_writes

theorem field_writes : WritesWithin 3 Field := by
  intro field
  apply Legible.obj (by simp)
  simp only [List.forall_mem_cons]
  exact ⟨.str 2 _, .str 2 _, arguments_write _, List.forall_mem_nil _⟩

theorem type_answer_writes : WritesWithin 5 TypeAnswer := by
  intro answer
  apply Legible.obj (by simp)
  simp only [List.forall_mem_cons]
  exact ⟨.str 4 _, .str 4 _, list_writes field_writes _, List.forall_mem_nil _⟩

theorem field_answer_writes : WritesWithin 3 FieldAnswer := by
  intro answer
  apply Legible.obj (by simp)
  simp only [List.forall_mem_cons]
  exact ⟨.str 2 _, .str 2 _, .str 2 _, .str 2 _, arguments_write _, List.forall_mem_nil _⟩

theorem search_answer_writes : WritesWithin 2 SearchAnswer := by
  intro answer
  apply Legible.obj (by simp)
  simp only [List.forall_mem_cons]
  exact ⟨.str 1 _, names_write _, List.forall_mem_nil _⟩

/-! ### Verdicts -/

theorem owner_kind_writes : WritesWithin 0 OwnerKind := by
  intro kind
  cases kind
  all_goals exact .str 0 _

theorem owner_writes : WritesWithin 1 Owner := by
  intro owner
  apply legible_of_fields (by simp)
  simp only [List.forall_mem_cons]
  exact ⟨given_writes (owner_kind_writes _), optional_writes (string_writes 0) _,
    List.forall_mem_nil _⟩

theorem evidence_writes : WritesWithin 1 Evidence := by
  intro evidence
  apply Legible.obj (by simp)
  simp only [List.forall_mem_cons]
  exact ⟨.str 0 _, List.forall_mem_nil _⟩

theorem violation_writes : WritesWithin 3 Violation := by
  intro violation
  apply legible_of_fields (by simp)
  simp only [List.forall_mem_cons]
  exact ⟨given_writes (.str 2 _), given_writes (.str 2 _),
    optional_writes (list_writes evidence_writes) _, List.forall_mem_nil _⟩

theorem action_writes : WritesWithin 0 Action := by
  intro action
  cases action
  all_goals exact .str 0 _

theorem fix_writes : WritesWithin 1 Fix := by
  intro fix
  apply legible_of_fields (by simp)
  simp only [List.forall_mem_cons]
  exact ⟨given_writes (action_writes _), optional_writes (string_writes 0) _,
    given_writes (.str 0 _), List.forall_mem_nil _⟩

theorem status_writes : WritesWithin 0 Placement.Status := by
  intro status
  cases status
  all_goals exact .str 0 _

theorem findings_legible (verdict : Verdict) : Legible 5 (.obj verdict.findings) := by
  apply Legible.obj (by simp [Verdict.findings])
  simp only [Verdict.findings, List.forall_mem_cons]
  exact ⟨(status_writes _).more (by decide), (owner_writes _).more (by decide),
    list_writes violation_writes _, (list_writes fix_writes _).more (by decide),
    List.forall_mem_nil _⟩

/-! ### Envelopes -/

theorem confidence_writes (levels : Nat) : WritesWithin levels Confidence := by
  intro confidence
  cases confidence
  all_goals exact .str levels _

theorem warnings_write : WritesWithin 2 (List Warning) := by
  apply list_writes
  intro warning
  apply Legible.obj (by simp)
  simp only [List.forall_mem_cons]
  exact ⟨.str 0 _, .str 0 _, List.forall_mem_nil _⟩

theorem some_warnings_write (warnings : List Warning) :
    ∀ value ∈ (someWarnings warnings).map write, Legible 5 value :=
  optional_writes (fun kept => (warnings_write kept).more (by decide)) _

theorem success_legible {data : Json} (legible : Legible 5 data) (confidence : Confidence)
    (warnings : List Warning) : Legible 6 (success data confidence warnings).write := by
  apply legible_of_fields (by simp)
  simp only [List.forall_mem_cons]
  exact ⟨given_writes (.bool 5 true), unless_null_writes legible,
    given_writes (confidence_writes 5 _), some_warnings_write _, List.forall_mem_nil _⟩

theorem problem_legible (code : String) (message : Message) :
    Legible 1 (write (⟨code, message, .null⟩ : Problem)) := by
  apply legible_of_fields (by simp)
  simp only [List.forall_mem_cons]
  exact ⟨given_writes (.str 0 _), given_writes (.str 0 _), unless_null_writes (.null 0),
    List.forall_mem_nil _⟩

theorem failure_legible (code : String) (message : Message) (confidence : Confidence)
    (warnings : List Warning) : Legible 6 (failure code message confidence warnings).write := by
  apply legible_of_fields (by simp)
  simp only [List.forall_mem_cons]
  exact ⟨given_writes (.bool 5 false),
    given_writes ((problem_legible code message).more (by decide)),
    given_writes (confidence_writes 5 _), some_warnings_write _, List.forall_mem_nil _⟩

end StorefrontSurvey.Wire

namespace StorefrontSurvey.Tools

open StorefrontSurvey.Path (Location)
open Json (Legible)
open Schema (Registry Loaded)
open Wire (Envelope success_legible failure_legible)

variable {files : Files} {directory : Location} {config : Config} {registry : Registry}
  {envelope : Envelope}

theorem plain_failure_legible (code : String) (message : Wire.Message) :
    Legible 6 (plainFailure code message).write := failure_legible _ _ _ _

theorem refused_legible {refusal : Sandbox.Refusal} (answered : refused refusal = .ok envelope) :
    Legible 6 envelope.write := by
  obtain ⟨escape, rfl⟩ := refused_candid answered
  exact plain_failure_legible _ _

theorem list_routes_legible {routesFile? : Option String}
    (answered : listRoutes files config routesFile? = .ok envelope) :
    Legible 6 envelope.write := by
  unfold listRoutes listRoutesBy at answered
  dsimp only at answered
  split at answered
  case h_1 listing _ =>
    obtain rfl := Except.ok.inj answered
    unfold routesEnvelope
    split_ifs
    · exact failure_legible _ _ _ _
    · apply success_legible
      apply Legible.obj (by simp)
      simp only [List.forall_mem_cons]
      exact ⟨(Wire.list_writes Wire.route_writes _).more (by decide), List.forall_mem_nil _⟩
  case h_2 => exact refused_legible answered

theorem outline_file_legible {file : String}
    (answered : outlineFile files config file = .ok envelope) : Legible 6 envelope.write := by
  unfold outlineFile at answered
  split at answered
  case h_1 survey _ =>
    obtain rfl := Except.ok.inj answered
    unfold surveyEnvelope
    split
    · exact failure_legible _ _ _ _
    · exact success_legible ((Wire.outline_writes _).more (by decide)) _ _
  case h_2 => exact refused_legible answered

theorem question_legible (loaded : Loaded) (question : Question) :
    Legible 6 (question.envelope loaded).write := by
  cases question with
  | type name =>
      simp only [Question.envelope, typeEnvelope]
      split
      · exact failure_legible _ _ _ _
      · split_ifs
        · exact success_legible (Wire.type_answer_writes _) _ _
        · exact failure_legible _ _ _ _
  | field reference =>
      simp only [Question.envelope, fieldEnvelope]
      split
      · exact plain_failure_legible _ _
      · split
        · exact failure_legible _ _ _ _
        · exact success_legible ((Wire.field_answer_writes _).more (by decide)) _ _
  | search text => exact success_legible ((Wire.search_answer_writes _).more (by decide)) _ _

theorem lookup_schema_legible {lookup : Lookup}
    (answered : (lookupSchema files directory config registry lookup).1 = .ok envelope) :
    Legible 6 envelope.write := by
  have step := lookup_step files directory config registry lookup
  generalize (lookupSchema files directory config registry lookup).1 = outcome at step answered
  cases step with
  | early =>
      obtain rfl := Except.ok.inj answered
      exact plain_failure_legible _ _
  | handedOn => cases answered
  | @asked path question =>
      cases loads : (registry.load files directory path).1 with
      | error faults =>
          rw [loads] at answered
          cases answered
      | ok loaded =>
          rw [loads] at answered
          obtain rfl := Except.ok.inj answered
          exact question_legible loaded question

theorem check_placement_legible (config : Config) (consumer query : String)
    (allowlist? : Option (List String)) :
    Legible 6 (checkPlacement config consumer query allowlist?).write :=
  success_legible (Wire.findings_legible _) _ _

end StorefrontSurvey.Tools
