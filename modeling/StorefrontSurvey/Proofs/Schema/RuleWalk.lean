import Mathlib.Data.List.Nodup
import StorefrontSurvey.Schema.Rules
/-!
What the walk through a document enters of types and of their fields. Only the check of a type's
name enters a type, and only the check of a type's members enters fields; all other steps may report
violations, but leave alone what was met. So a document without violations defines no type twice, and
no part of a type has a field that another part of it has.
-/
namespace StorefrontSurvey.Schema

/-- What a step of the walk enters. -/
structure Gathered where
  types : List String
  fields : List (String × String)

def Gathered.none : Gathered := ⟨[], []⟩

def Gathered.append (first second : Gathered) : Gathered :=
  ⟨first.types ++ second.types, first.fields ++ second.fields⟩

/-- What a walk has met, in the order in which it was met. -/
def Walk.met (w : Walk) : Gathered := ⟨w.types.reverse, w.fields.reverse⟩

def Gathered.Distinct (g : Gathered) : Prop := g.types.Nodup ∧ g.fields.Nodup

/-- A step of the walk takes no violation back, and if there are none after it, all that it has
entered is new. -/
structure Enters {α : Type} (step : Walker α) (entered : Gathered) : Prop where
  grows : ∀ w, w.violations <:+ (step.run w).2.violations
  met : ∀ w, (step.run w).2.violations = [] → (step.run w).2.met = w.met.append entered
  distinct : ∀ w, (step.run w).2.violations = [] → w.met.Distinct → (step.run w).2.met.Distinct

abbrev Quiet {α : Type} (step : Walker α) : Prop := Enters step .none

theorem append_none (g : Gathered) : g.append .none = g := by
  simp only [Gathered.append, Gathered.none, List.append_nil]

theorem none_append (g : Gathered) : Gathered.none.append g = g := by
  simp only [Gathered.append, Gathered.none, List.nil_append]

theorem append_gathered_assoc (first second third : Gathered) :
    (first.append second).append third = first.append (second.append third) := by
  simp only [Gathered.append, List.append_assoc]

/-! ### Steps put together -/

/-- A step after which all that was met stays. -/
theorem quiet_of_kept {α : Type} {step : Walker α}
    (grows : ∀ w, w.violations <:+ (step.run w).2.violations)
    (kept : ∀ w, (step.run w).2.violations = [] → (step.run w).2.met = w.met) : Quiet step where
  grows := grows
  met w clear := by rw [kept w clear, append_none]
  distinct w clear distinct := by rwa [kept w clear]

namespace Enters

variable {α β : Type} {step : Walker α} {next : α → Walker β} {first second : Gathered}

theorem done (a : α) : Quiet (pure a : Walker α) :=
  quiet_of_kept (fun _ => List.suffix_refl _) fun _ _ => rfl

theorem bind (before : Enters step first) (after : ∀ a, Enters (next a) second) :
    Enters (step >>= next) (first.append second) := by
  have run (w : Walk) : ((step >>= next).run w).2 =
      ((next (step.run w).1).run (step.run w).2).2 := rfl
  have clear (w : Walk) (none : ((step >>= next).run w).2.violations = []) :
      (step.run w).2.violations = [] := by
    have grows := (after (step.run w).1).grows (step.run w).2
    rw [← run, none] at grows
    exact List.suffix_nil.1 grows
  refine ⟨fun w => ?_, fun w none => ?_, fun w none distinct => ?_⟩
  · exact (before.grows w).trans ((after _).grows _)
  · rw [run, (after (step.run w).1).met (step.run w).2 none, before.met w (clear w none),
      append_gathered_assoc]
  · exact (after _).distinct _ none (before.distinct w (clear w none) distinct)

theorem thenQuiet (before : Enters step first) (after : ∀ a, Quiet (next a)) :
    Enters (step >>= next) first := by
  rw [← append_none first]
  exact bind before after

/-- What the steps of a list enter one after another. -/
def all (each : α → Gathered) (list : List α) : Gathered :=
  ⟨list.flatMap fun a => (each a).types, list.flatMap fun a => (each a).fields⟩

theorem forM {list : List α} {body : α → Walker Unit} {each : α → Gathered}
    (steps : ∀ a ∈ list, Enters (body a) (each a)) : Enters (list.forM body) (all each list) := by
  induction list with
  | nil => exact done _
  | cons a rest ih =>
      have split : (a :: rest).forM body = body a >>= fun _ => rest.forM body := rfl
      rw [split]
      exact bind (steps a List.mem_cons_self) fun _ =>
        ih fun b member => steps b (List.mem_cons_of_mem _ member)

end Enters

namespace Quiet

variable {α β : Type} {step : Walker α} {next : α → Walker β}

theorem thenEnters {entered : Gathered} (before : Quiet step)
    (after : ∀ a, Enters (next a) entered) : Enters (step >>= next) entered := by
  rw [← none_append entered]
  exact Enters.bind before after

theorem bind (before : Quiet step) (after : ∀ a, Quiet (next a)) : Quiet (step >>= next) :=
  thenEnters before after

theorem forM {body : α → Walker Unit} (list : List α) (steps : ∀ a, Quiet (body a)) :
    Quiet (list.forM body) := by
  have none : Enters.all (fun _ : α => Gathered.none) list = .none := by
    simp [Enters.all, Gathered.none]
  rw [Quiet, ← none]
  exact Enters.forM fun a _ => steps a

theorem option {body : α → Walker Unit} (value? : Option α) (steps : ∀ a, Quiet (body a)) :
    Quiet (value?.forM body) := by
  cases value? with
  | none => exact Enters.done _
  | some a => exact steps a

theorem ite {condition : Prop} [Decidable condition] {other : Walker α} (yes : Quiet step)
    (no : Quiet other) : Quiet (if condition then step else other) := by
  split
  · exact yes
  · exact no

theorem report (v : Violation) : Quiet (report v) := by
  refine quiet_of_kept (fun w => List.suffix_cons _ _) fun w none => ?_
  cases none

/-- A report if something is wrong. -/
theorem report_if {condition : Prop} [Decidable condition] (v : Violation) :
    Quiet (if condition then Schema.report v else pure ()) := ite (report v) (Enters.done _)

theorem look : Quiet (get : Walker Walk) :=
  quiet_of_kept (fun _ => List.suffix_refl _) fun _ _ => rfl

theorem note {change : Walk → Walk} (told : ∀ w, (change w).violations = w.violations)
    (kept : ∀ w, (change w).met = w.met) : Quiet (modify change : Walker Unit) := by
  have run (w : Walk) : ((modify change : Walker Unit).run w).2 = change w := rfl
  refine quiet_of_kept (fun w => ?_) fun w _ => ?_
  · rw [run]
    exact ⟨[], (told w).symm⟩
  · rw [run, kept]

end Quiet

/-- Something is entered unless it was met before, which is a violation. -/
theorem enters_unless_met (met : Walk → Bool) (v : Violation) (enter : Walk → Walk)
    {entered : Gathered} (told : ∀ w, (enter w).violations = w.violations)
    (fresh : ∀ w, (enter w).met = w.met.append entered)
    (new : ∀ w, w.met.Distinct → met w = false → (w.met.append entered).Distinct) :
    Enters (do if met (← get) then report v else modify enter) entered := by
  have run (w : Walk) :
      ((do if met (← get) then report v else modify enter : Walker Unit).run w).2 =
        if met w = true then { w with violations := v :: w.violations } else enter w := by
    change ((if met w = true then report v else modify enter : Walker Unit).run w).2 = _
    split_ifs <;> rfl
  have known (w : Walk) (before : met w = true)
      (none : ((if met w = true then { w with violations := v :: w.violations } else
        enter w).violations) = []) : False := by
    rw [if_pos before] at none
    cases none
  refine ⟨fun w => ?_, fun w none => ?_, fun w none distinct => ?_⟩
  all_goals rw [run] at *
  all_goals cases before : met w
  · rw [if_neg Bool.false_ne_true]
    exact ⟨[], (told w).symm⟩
  · exact List.suffix_cons _ _
  · exact fresh w
  · exact (known w before none).elim
  · rw [if_neg Bool.false_ne_true, fresh]
    exact new w distinct before
  · exact (known w before none).elim

/-! ### Values and directives -/

mutual

theorem walk_value_quiet (v : Value) : Quiet (walkValue v) := by
  cases v with
  | list items => exact walk_values_quiet items
  | object fields => exact walk_fields_quiet [] fields
  | _ => exact Enters.done _

theorem walk_values_quiet (values : List Value) : Quiet (walkValues values) := by
  cases values with
  | nil => exact Enters.done _
  | cons v rest => exact .bind (walk_value_quiet v) fun _ => walk_values_quiet rest

theorem walk_fields_quiet (seen : List String) (fields : List (String × Value)) :
    Quiet (walkFields seen fields) := by
  cases fields with
  | nil => exact Enters.done _
  | cons field rest =>
      obtain ⟨name, v⟩ := field
      have more : Quiet (do walkValue v; walkFields (name :: seen) rest) :=
        .bind (walk_value_quiet v) fun _ => walk_fields_quiet _ rest
      rw [walkFields]
      exact .ite (.bind (.report _) fun _ => more) more

end

theorem walk_arguments_quiet (args : List Argument) : Quiet (walkArguments args) :=
  .forM _ fun a => walk_value_quiet a.value

theorem walk_type_name_quiet (known : Known) (inTypes : Bool) (name : String) :
    Quiet (walkTypeName known inTypes name) :=
  .ite (Enters.done _) (.ite (Enters.done _) (.report _))

theorem walk_directive_quiet (known : Known) (site : Site) (use : Directive) :
    Quiet (walkDirective known site use) := by
  have repeated : Quiet ((repeatedNames (use.args.map Argument.name)).forM fun n =>
      report (.secondArgument n)) := .forM _ fun _ => .report _
  unfold walkDirective
  dsimp only
  cases known.directive? use.name with
  | none =>
      refine .bind (.report _) fun _ => .bind repeated fun _ => ?_
      exact .bind (walk_arguments_quiet _) fun _ => Enters.done _
  | some d =>
      have lacks : Quiet (d.requiredArgs.forM fun a => do
          if !(use.args.map Argument.name).contains a.name then
            report (.missingDirectiveArgument use.name a.name a.type.text)) :=
        .forM _ fun _ => .report_if _
      have more : Quiet (do
          (repeatedNames (use.args.map Argument.name)).forM fun n => report (.secondArgument n)
          walkArguments use.args
          d.requiredArgs.forM fun a => do
            if !(use.args.map Argument.name).contains a.name then
              report (.missingDirectiveArgument use.name a.name a.type.text)) :=
        .bind repeated fun _ => .bind (walk_arguments_quiet _) fun _ => lacks
      have unknown : Quiet ((use.args.map Argument.name).forM fun n => do
          if !(d.args.map InputValue.name).contains n then
            report (.unknownDirectiveArgument n use.name
              (suggestions n (d.args.map InputValue.name)))) :=
        .forM _ fun _ => .report_if _
      have given := Quiet.bind unknown fun _ => more
      exact .ite (.bind (.report _) fun _ => given) given

theorem walk_directives_quiet (known : Known) (site : Site) (ds : List Directive) :
    Quiet (walkDirectives known site ds) := .forM ds (walk_directive_quiet known site)

theorem repeats_among_quiet (known : Known) (seen : List String) (ds : List Directive) :
    Quiet (repeatsAmong known seen ds) := by
  induction ds generalizing seen with
  | nil => exact Enters.done _
  | cons d rest ih =>
      rw [repeatsAmong]
      exact .ite (.ite (.bind (.report _) fun _ => ih seen) (ih _)) (ih seen)

theorem enter_directives_quiet (known : Known) (ds : List Directive) :
    Quiet (enterDirectives known ds) :=
  .bind (repeats_among_quiet known [] ds) fun _ => Enters.done _

theorem enter_schema_directives_quiet (known : Known) (ds : List Directive) :
    Quiet (enterSchemaDirectives known ds) :=
  .bind .look fun w => .bind (repeats_among_quiet known w.onSchema ds) fun _ =>
    .note (fun _ => rfl) fun _ => rfl

theorem enter_type_directives_quiet (known : Known) (type : String) (ds : List Directive) :
    Quiet (enterTypeDirectives known type ds) :=
  .bind .look fun _ => .bind (repeats_among_quiet known _ ds) fun _ =>
    .note (fun _ => rfl) fun _ => rfl

/-! ### Parts of types -/

theorem walk_input_value_quiet (known : Known) (site : Site) (v : InputValue) :
    Quiet (walkInputValue known site v) :=
  .bind (enter_directives_quiet known _) fun _ =>
    .bind (walk_type_name_quiet known true _) fun _ =>
      .bind (.option v.default? walk_value_quiet) fun _ => walk_directives_quiet known site _

theorem walk_field_quiet (known : Known) (f : FieldDef) : Quiet (walkField known f) :=
  .bind (enter_directives_quiet known _) fun _ =>
    .bind (.forM f.args (walk_input_value_quiet known .argumentDefinition)) fun _ =>
      .bind (walk_type_name_quiet known true _) fun _ => walk_directives_quiet known _ _

theorem walk_enum_value_quiet (known : Known) (v : EnumValueDef) :
    Quiet (walkEnumValue known v) :=
  .bind (enter_directives_quiet known _) fun _ => walk_directives_quiet known _ _

theorem check_enum_values_quiet (type : String) (names : List String) :
    Quiet (checkEnumValues type names) :=
  .forM names fun _ => .bind .look fun _ => .ite (.report _) (.note (fun _ => rfl) fun _ => rfl)

theorem check_arg_defs_quiet (owner : String) (args : List InputValue) :
    Quiet (checkArgDefs owner args) := .forM _ fun _ => .report _

theorem nodup_snoc {α : Type} {list : List α} {a : α} (nodup : list.Nodup) (new : a ∉ list) :
    (list ++ [a]).Nodup := by
  rw [List.nodup_append_comm]
  exact List.nodup_cons.2 ⟨new, nodup⟩

theorem check_field_enters (type name : String) :
    Enters (do
      if (← get).fields.contains (type, name) then report (.secondField type name)
      else modify fun w => { w with fields := (type, name) :: w.fields })
      ⟨[], [(type, name)]⟩ := by
  refine enters_unless_met (fun w => w.fields.contains (type, name)) _ _ (fun _ => rfl)
    (fun w => ?_) fun w distinct new => ⟨?_, nodup_snoc distinct.2 ?_⟩
  · simp [Walk.met, Gathered.append]
  · simpa [Gathered.append] using distinct.1
  · simpa [Walk.met] using new

theorem check_fields_enters (type : String) (names : List String) :
    Enters (checkFields type names) ⟨[], names.map fun name => (type, name)⟩ := by
  have whole : Enters.all (fun name => ⟨[], [(type, name)]⟩) names =
      ⟨[], names.map fun name => (type, name)⟩ := by
    simp [Enters.all, List.map_eq_flatMap]
  rw [← whole]
  exact .forM fun name _ => check_field_enters type name

/-- The fields of a type or of an extension, with the name of the type. -/
def TypeDef.typedFields (d : TypeDef) : List (String × String) :=
  d.body.fieldNames.map fun name => (d.name, name)

theorem check_members_enters (d : TypeDef) : Enters (checkMembers d) ⟨[], d.typedFields⟩ := by
  have args : Quiet (d.body.fieldArgs.forM fun part =>
      checkArgDefs (d.name ++ "." ++ part.1) part.2) :=
    .forM _ fun part => check_arg_defs_quiet _ part.2
  exact (check_enum_values_quiet d.name _).thenEnters fun _ =>
    (check_fields_enters d.name _).thenQuiet fun _ => args

theorem walk_type_parts_quiet (known : Known) (extending : Bool) (d : TypeDef) :
    Quiet (walkTypeParts known extending d) := by
  have names (list : List String) : Quiet (list.forM (walkTypeName known true)) :=
    .forM list (walk_type_name_quiet known true)
  have fields (list : List FieldDef) : Quiet (list.forM (walkField known)) :=
    .forM list (walk_field_quiet known)
  have directives := walk_directives_quiet known d.body.site d.directives
  unfold walkTypeParts
  cases body : d.body with
  | scalar => exact .bind (body ▸ directives) fun _ => Enters.done _
  | object supers list =>
      exact .bind (names supers) fun _ => .bind (body ▸ directives) fun _ => fields list
  | interface supers list =>
      exact .bind (names supers) fun _ => .bind (body ▸ directives) fun _ => fields list
  | union members => exact .bind (body ▸ directives) fun _ => names members
  | enum values =>
      exact .bind (body ▸ directives) fun _ => .forM values (walk_enum_value_quiet known)
  | input list =>
      exact .bind (body ▸ directives) fun _ => .forM list (walk_input_value_quiet known _)

theorem check_type_name_enters (name : String) : Enters (checkTypeName name) ⟨[name], []⟩ := by
  refine enters_unless_met (fun w => w.types.contains name) _ _ (fun _ => rfl) (fun w => ?_)
    fun w distinct new => ⟨nodup_snoc distinct.1 ?_, ?_⟩
  · simp [Walk.met, Gathered.append]
  · simpa [Walk.met] using new
  · simpa [Gathered.append] using distinct.2

theorem check_extension_quiet (known : Known) (d : TypeDef) : Quiet (checkExtension known d) := by
  unfold checkExtension
  split
  · exact .report_if _
  · exact .report _

/-! ### Definitions -/

theorem check_operations_quiet (operations : List OperationType) :
    Quiet (checkOperations operations) :=
  .forM operations fun _ => .bind .look fun _ =>
    .ite (.report _) (.note (fun _ => rfl) fun _ => rfl)

theorem walk_schema_parts_quiet (known : Known) (ds : List Directive)
    (operations : List OperationType) : Quiet (walkSchemaParts known ds operations) :=
  .bind (walk_directives_quiet known _ ds) fun _ =>
    .forM operations fun o => walk_type_name_quiet known true o.type

mutual

theorem walk_selection_quiet (known : Known) (s : Selection) :
    Quiet (walkSelection known s) := by
  cases s with
  | field args ds selections =>
      have repeated : Quiet ((repeatedNames (args.map Argument.name)).forM fun n =>
          report (.secondArgument n)) := .forM _ fun _ => .report _
      rw [walkSelection]
      exact .bind (enter_directives_quiet known ds) fun _ => .bind repeated fun _ =>
        .bind (walk_arguments_quiet args) fun _ =>
          .bind (walk_directives_quiet known _ ds) fun _ => walk_selections_quiet known selections
  | spread ds =>
      rw [walkSelection]
      exact .bind (enter_directives_quiet known ds) fun _ => walk_directives_quiet known _ ds
  | inline type? ds selections =>
      rw [walkSelection]
      exact .bind (enter_directives_quiet known ds) fun _ =>
        .bind (.option type? (walk_type_name_quiet known false)) fun _ =>
          .bind (walk_directives_quiet known _ ds) fun _ => walk_selections_quiet known selections

theorem walk_selections_quiet (known : Known) (selections : List Selection) :
    Quiet (walkSelections known selections) := by
  cases selections with
  | nil => exact Enters.done _
  | cons s rest =>
      rw [walkSelections]
      exact .bind (walk_selection_quiet known s) fun _ => walk_selections_quiet known rest

end

theorem walk_variable_quiet (known : Known) (v : VariableDef) : Quiet (walkVariable known v) :=
  .bind (enter_directives_quiet known _) fun _ =>
    .bind (walk_type_name_quiet known false _) fun _ =>
      .bind (.option v.default? walk_value_quiet) fun _ => walk_directives_quiet known _ _

/-- What a definition enters: a type, unless it extends one, and the fields that it gives to it. -/
def Definition.gathered : Definition → Gathered
  | .type d => ⟨[d.name], d.typedFields⟩
  | .typeExtension d => ⟨[], d.typedFields⟩
  | _ => .none

theorem walk_definition_enters (known : Known) (definition : Definition) :
    Enters (walkDefinition known definition) definition.gathered := by
  cases definition with
  | schema ds operations =>
      have rest : Quiet (do
          modify fun w => { w with schemas := w.schemas + 1 }
          checkOperations operations
          enterSchemaDirectives known ds
          walkSchemaParts known ds operations) :=
        .bind (.note (fun _ => rfl) fun _ => rfl) fun _ =>
          .bind (check_operations_quiet operations) fun _ =>
            .bind (enter_schema_directives_quiet known ds) fun _ =>
              walk_schema_parts_quiet known ds operations
      exact Quiet.bind .look fun _ => .ite (.bind (.report _) fun _ => rest) rest
  | schemaExtension ds operations =>
      exact Quiet.bind (check_operations_quiet operations) fun _ =>
        .bind (enter_schema_directives_quiet known ds) fun _ =>
          walk_schema_parts_quiet known ds operations
  | type d =>
      have parts : Quiet (do
          enterTypeDirectives known d.name d.directives
          walkTypeParts known false d) :=
        .bind (enter_type_directives_quiet known d.name _) fun _ =>
          walk_type_parts_quiet known false d
      exact (check_type_name_enters d.name).bind fun _ =>
        (check_members_enters d).thenQuiet fun _ => parts
  | typeExtension d =>
      have parts : Quiet (do
          enterTypeDirectives known d.name d.directives
          checkExtension known d
          walkTypeParts known true d) :=
        .bind (enter_type_directives_quiet known d.name _) fun _ =>
          .bind (check_extension_quiet known d) fun _ => walk_type_parts_quiet known true d
      exact (check_members_enters d).thenQuiet fun _ => parts
  | directive d =>
      have rest : Quiet (d.args.forM (walkInputValue known .argumentDefinition)) :=
        .forM d.args (walk_input_value_quiet known _)
      exact Quiet.bind (check_arg_defs_quiet _ d.args) fun _ => .bind .look fun _ =>
        .ite (.bind (.report _) fun _ => rest) (.bind (.note (fun _ => rfl) fun _ => rfl) fun _ => rest)
  | operation operation declared ds selections =>
      exact Quiet.bind (enter_directives_quiet known ds) fun _ =>
        .bind (.forM declared (walk_variable_quiet known)) fun _ =>
          .bind (walk_directives_quiet known _ ds) fun _ => walk_selections_quiet known selections
  | fragment type ds selections =>
      exact Quiet.bind (enter_directives_quiet known ds) fun _ =>
        .bind (walk_type_name_quiet known false type) fun _ =>
          .bind (walk_directives_quiet known _ ds) fun _ => walk_selections_quiet known selections

/-- A document that keeps all rules has no type twice, and no type has a field twice, its extensions
counted in. -/
theorem gathered_distinct {doc : Document} (none : violations doc = []) :
    (Enters.all Definition.gathered doc).Distinct := by
  have enters : Enters (doc.forM (walkDefinition (Known.of doc)))
      (Enters.all Definition.gathered doc) :=
    .forM fun definition _ => walk_definition_enters _ definition
  have clear : ((doc.forM (walkDefinition (Known.of doc))).run {}).2.violations = [] :=
    List.reverse_eq_nil_iff.1 none
  have distinct := enters.distinct {} clear ⟨List.nodup_nil, List.nodup_nil⟩
  rw [enters.met {} clear] at distinct
  exact distinct

end StorefrontSurvey.Schema
