import StorefrontSurvey.Proofs.Wire.Layouts
/-!
The forms in which values travel, each by its layout. A value of any of them is read back as it was
written, and a field of what can be read may as well stand under its plain name, however deep it is.
-/
namespace StorefrontSurvey.Wire

/-! ### Words -/

instance : Faithful Confidence := .free fun confidence => by cases confidence <;> rfl

instance : Faithful Routes.RouteKind := .free fun kind => by cases kind <;> rfl

instance : Faithful OwnerKind := .free fun kind => by cases kind <;> rfl

instance : Faithful Action := .free fun action => by cases action <;> rfl

instance : Faithful Placement.Status := .free fun status => by cases status <;> rfl

instance : Faithful Message := .free fun message => dif_neg message.text_ne

theorem string_solid (text : String) : write text ≠ .null := nofun

theorem list_solid {α : Type} [Wire α] (items : List α) : write items ≠ .null := nofun

/-! ### Envelopes -/

/-- Values that can all be said. -/
abbrev Plain (α : Type) := Layout α α fun _ => True

def warningLayout : Plain Warning :=
  (Layout.of Warning.of (.required "code" Warning.code)).and
    (.required "message" fun w => ⟨w.message, w.message_ne⟩)

instance : Faithful Warning := .ofLayout warningLayout
  ⟨fun _ => rfl, fun _ => rfl, fun _ => rfl, by decide⟩

def problemLayout : Plain Problem :=
  ((Layout.of Problem.mk (.required "code" Problem.code)).and
    (.required "message" Problem.message)).and (.silent "details" Problem.details)

instance : Faithful Problem := .ofLayout problemLayout
  ⟨fun _ => rfl, fun _ => rfl, fun _ => rfl, by decide⟩

def failureLayout : Plain Failure :=
  (((Layout.of (fun _ => Failure.mk) (.flag false "ok")).and
    (.required "error" Failure.problem)).and (.required "confidence" Failure.confidence)).and
    (.optional "warnings" Failure.warnings list_solid)

instance : Faithful Failure := .ofLayout failureLayout
  ⟨fun _ => rfl, fun _ => rfl, fun _ => rfl, by decide⟩

section Successes

variable {α : Type} [Wire α] [Formed α]

/-- The layout of a success, which can be said if its data can be read back and is not null. -/
def successLayout : Layout (SuccessOf α) (SuccessOf α) fun s =>
    (read (write s.data) : Reading α) = .good s.data ∧ write s.data ≠ .null :=
  (((Layout.of (fun _ => SuccessOf.mk) (.flag true "ok")).and (.payload "data" SuccessOf.data)).and
    (.required "confidence" SuccessOf.confidence)).and
    (.optional "warnings" SuccessOf.warnings list_solid)

theorem success_described : (successLayout (α := α)).Describes :=
  ⟨fun _ => rfl, fun _ => rfl, fun _ => rfl, by
    change Apart ["ok", "data", "confidence", "warnings"]
    decide⟩

instance : Formed (SuccessOf α) := .ofLayout success_described

end Successes

/-! ### Routes and outlines -/

def routeLayout : Plain Routes.Route :=
  (((Layout.of Routes.Route.mk (.required "pattern" Routes.Route.pattern)).and
    (.required "file" Routes.Route.file)).and (.required "kind" Routes.Route.kind)).and
    (.optional ⟨"moduleGuess", "module_guess"⟩ Routes.Route.module? string_solid)

instance : Faithful Routes.Route := .ofLayout routeLayout
  ⟨fun _ => rfl, fun _ => rfl, fun _ => rfl, by decide⟩

def routeReportLayout : Plain RouteReport :=
  ((Layout.of RouteReport.mk (.required "routes" RouteReport.routes)).and
    (.required "confidence" RouteReport.confidence)).and
    (.optional "warnings" RouteReport.warnings list_solid)

instance : Faithful RouteReport := .ofLayout routeReportLayout
  ⟨fun _ => rfl, fun _ => rfl, fun _ => rfl, by decide⟩

def exportsLayout : Plain Outline.Exports :=
  (Layout.of Outline.Exports.mk (.optional "default" Outline.Exports.default? string_solid)).and
    (.withDefault "named" Outline.Exports.named [])

instance : Faithful Outline.Exports := .ofLayout exportsLayout
  ⟨fun _ => rfl, fun _ => rfl, fun _ => rfl, by decide⟩

def symbolsLayout : Plain Outline.Symbols :=
  (((Layout.of Outline.Symbols.mk (.withDefault "functions" Outline.Symbols.functions [])).and
    (.withDefault "types" Outline.Symbols.types [])).and
    (.withDefault "classes" Outline.Symbols.classes [])).and
    (.withDefault "consts" Outline.Symbols.consts [])

instance : Faithful Outline.Symbols := .ofLayout symbolsLayout
  ⟨fun _ => rfl, fun _ => rfl, fun _ => rfl, by decide⟩

def outlineLayout : Plain Outline :=
  ((Layout.of Outline.mk (.withDefault "imports" Outline.imports [])).and
    (.withDefault "exports" Outline.exports ⟨none, []⟩)).and
    (.withDefault "symbols" Outline.symbols ⟨[], [], [], []⟩)

instance : Faithful Outline := .ofLayout outlineLayout
  ⟨fun _ => rfl, fun _ => rfl, fun _ => rfl, by decide⟩

def outlineReportLayout : Plain OutlineReport :=
  ((Layout.of OutlineReport.mk (.required "outline" OutlineReport.outline)).and
    (.required "confidence" OutlineReport.confidence)).and
    (.optional "warnings" OutlineReport.warnings list_solid)

instance : Faithful OutlineReport := .ofLayout outlineReportLayout
  ⟨fun _ => rfl, fun _ => rfl, fun _ => rfl, by decide⟩

/-! ### Schema lookups -/

def argumentLayout : Plain Argument :=
  (Layout.of Argument.mk (.required "name" Argument.name)).and (.required "type" Argument.type)

instance : Faithful Argument := .ofLayout argumentLayout
  ⟨fun _ => rfl, fun _ => rfl, fun _ => rfl, by decide⟩

def fieldLayout : Plain Field :=
  ((Layout.of Field.mk (.required "name" Field.name)).and
    (.required ⟨"returnType", "return_type"⟩ Field.returnType)).and
    (.withDefault "args" Field.args [])

instance : Faithful Field := .ofLayout fieldLayout
  ⟨fun _ => rfl, fun _ => rfl, fun _ => rfl, by decide⟩

def typeAnswerLayout : Plain TypeAnswer :=
  ((Layout.of (fun _ => TypeAnswer.mk) (.mark "type" "kind")).and
    (.required "name" TypeAnswer.name)).and (.required "fields" TypeAnswer.fields)

instance : Faithful TypeAnswer := .ofLayout typeAnswerLayout
  ⟨fun _ => rfl, fun _ => rfl, fun _ => rfl, by decide⟩

def fieldAnswerLayout : Plain FieldAnswer :=
  ((((Layout.of (fun _ => FieldAnswer.mk) (.mark "field" "kind")).and
    (.required ⟨"parentType", "parent_type"⟩ FieldAnswer.parentType)).and
    (.required "name" FieldAnswer.name)).and
    (.required ⟨"returnType", "return_type"⟩ FieldAnswer.returnType)).and
    (.withDefault "args" FieldAnswer.args [])

instance : Faithful FieldAnswer := .ofLayout fieldAnswerLayout
  ⟨fun _ => rfl, fun _ => rfl, fun _ => rfl, by decide⟩

def searchAnswerLayout : Plain SearchAnswer :=
  (Layout.of (fun _ => SearchAnswer.mk) (.mark "search" "kind")).and
    (.required "matches" SearchAnswer.names)

instance : Faithful SearchAnswer := .ofLayout searchAnswerLayout
  ⟨fun _ => rfl, fun _ => rfl, fun _ => rfl, by decide⟩

/-! ### Placement -/

def ownerLayout : Plain Owner :=
  (Layout.of Owner.mk (.required "kind" Owner.kind)).and
    (.optional "name" Owner.name? string_solid)

instance : Faithful Owner := .ofLayout ownerLayout
  ⟨fun _ => rfl, fun _ => rfl, fun _ => rfl, by decide⟩

def evidenceLayout : Plain Evidence := Layout.of Evidence.mk (.required "file" Evidence.file)

instance : Faithful Evidence := .ofLayout evidenceLayout
  ⟨fun _ => rfl, fun _ => rfl, fun _ => rfl, by decide⟩

def violationLayout : Plain Violation :=
  ((Layout.of Violation.mk (.required "code" Violation.code)).and
    (.required "message" Violation.message)).and
    (.optional "evidence" Violation.evidence? list_solid)

instance : Faithful Violation := .ofLayout violationLayout
  ⟨fun _ => rfl, fun _ => rfl, fun _ => rfl, by decide⟩

def fixLayout : Plain Fix :=
  ((Layout.of Fix.mk (.required "action" Fix.action)).and
    (.optional ⟨"toPath", "to_path"⟩ Fix.toPath? string_solid)).and
    (.required "rationale" Fix.rationale)

instance : Faithful Fix := .ofLayout fixLayout
  ⟨fun _ => rfl, fun _ => rfl, fun _ => rfl, by decide⟩

def verdictLayout : Plain Verdict :=
  ((((Layout.of Verdict.mk (.required "status" Verdict.status)).and
    (.required "owner" Verdict.owner)).and
    (.withDefault "violations" Verdict.violations [])).and
    (.withDefault ⟨"suggestedFixes", "suggested_fixes"⟩ Verdict.fixes [])).and
    (.withDefault "confidence" Verdict.confidence .high)

instance : Faithful Verdict := .ofLayout verdictLayout
  ⟨fun _ => rfl, fun _ => rfl, fun _ => rfl, by decide⟩

/-! ### All of them -/

/-- The forms in which values travel, but for successes. -/
inductive Form where
  | warning
  | problem
  | failure
  | route
  | routeReport
  | exports
  | symbols
  | outline
  | outlineReport
  | argument
  | field
  | typeAnswer
  | fieldAnswer
  | searchAnswer
  | owner
  | evidence
  | violation
  | fix
  | verdict

namespace Form

@[reducible]
def Value : Form → Type
  | warning => Warning
  | problem => Problem
  | failure => Failure
  | route => Routes.Route
  | routeReport => RouteReport
  | exports => Outline.Exports
  | symbols => Outline.Symbols
  | outline => Outline
  | outlineReport => OutlineReport
  | argument => Argument
  | field => Field
  | typeAnswer => TypeAnswer
  | fieldAnswer => FieldAnswer
  | searchAnswer => SearchAnswer
  | owner => Owner
  | evidence => Evidence
  | violation => Violation
  | fix => Fix
  | verdict => Verdict

instance wire (form : Form) : Wire form.Value :=
  match form with
  | warning => inferInstanceAs (Wire Warning)
  | problem => inferInstanceAs (Wire Problem)
  | failure => inferInstanceAs (Wire Failure)
  | route => inferInstanceAs (Wire Routes.Route)
  | routeReport => inferInstanceAs (Wire RouteReport)
  | exports => inferInstanceAs (Wire Outline.Exports)
  | symbols => inferInstanceAs (Wire Outline.Symbols)
  | outline => inferInstanceAs (Wire Outline)
  | outlineReport => inferInstanceAs (Wire OutlineReport)
  | argument => inferInstanceAs (Wire Argument)
  | field => inferInstanceAs (Wire Field)
  | typeAnswer => inferInstanceAs (Wire TypeAnswer)
  | fieldAnswer => inferInstanceAs (Wire FieldAnswer)
  | searchAnswer => inferInstanceAs (Wire SearchAnswer)
  | owner => inferInstanceAs (Wire Owner)
  | evidence => inferInstanceAs (Wire Evidence)
  | violation => inferInstanceAs (Wire Violation)
  | fix => inferInstanceAs (Wire Fix)
  | verdict => inferInstanceAs (Wire Verdict)

instance faithful (form : Form) : Faithful form.Value :=
  match form with
  | warning => inferInstanceAs (Faithful Warning)
  | problem => inferInstanceAs (Faithful Problem)
  | failure => inferInstanceAs (Faithful Failure)
  | route => inferInstanceAs (Faithful Routes.Route)
  | routeReport => inferInstanceAs (Faithful RouteReport)
  | exports => inferInstanceAs (Faithful Outline.Exports)
  | symbols => inferInstanceAs (Faithful Outline.Symbols)
  | outline => inferInstanceAs (Faithful Outline)
  | outlineReport => inferInstanceAs (Faithful OutlineReport)
  | argument => inferInstanceAs (Faithful Argument)
  | field => inferInstanceAs (Faithful Field)
  | typeAnswer => inferInstanceAs (Faithful TypeAnswer)
  | fieldAnswer => inferInstanceAs (Faithful FieldAnswer)
  | searchAnswer => inferInstanceAs (Faithful SearchAnswer)
  | owner => inferInstanceAs (Faithful Owner)
  | evidence => inferInstanceAs (Faithful Evidence)
  | violation => inferInstanceAs (Faithful Violation)
  | fix => inferInstanceAs (Faithful Fix)
  | verdict => inferInstanceAs (Faithful Verdict)

end Form

/-- The forms in which values travel; the data of a success may have any form, or one of these. -/
inductive Model where
  | of (form : Form)
  | success
  | successOf (payload : Model)

namespace Model

@[reducible]
def Value : Model → Type
  | of form => form.Value
  | success => Success
  | successOf payload => SuccessOf payload.Value

instance wire (model : Model) : Wire model.Value :=
  match model with
  | of form => form.wire
  | success => inferInstanceAs (Wire Success)
  | successOf payload =>
    have := wire payload
    inferInstanceAs (Wire (SuccessOf payload.Value))

instance formed (model : Model) : Formed model.Value :=
  match model with
  | of form => form.faithful.toFormed
  | success => inferInstanceAs (Formed Success)
  | successOf payload =>
    have := formed payload
    inferInstanceAs (Formed (SuccessOf payload.Value))

/-- The fields of a form's values, at every depth. -/
def shape (model : Model) : Shape := Formed.shape model.Value

/-- What can be said in a form: anything, but for a success whose data is null. -/
def Sayable : (model : Model) → model.Value → Prop
  | of _, _ => True
  | success, s => s.data ≠ .null
  | successOf payload, s => payload.Sayable s.data

/-- Every form is that of an object. -/
theorem solid (model : Model) (value : model.Value) : write value ≠ .null := by
  cases model with
  | of form => cases form <;> exact nofun
  | success | successOf payload => exact nofun

theorem said_reads_back (model : Model) (value : model.Value) (said : model.Sayable value) :
    (read (write value) : Reading model.Value) = .good value := by
  induction model with
  | of form => exact form.faithful.reads_back value
  | success => exact success_described.reads_back ⟨rfl, said⟩
  | successOf payload ih =>
      exact success_described.reads_back ⟨ih value.data said, payload.solid value.data⟩

end Model

/-- What is written of a value is read back as that value. What can be read as a value is read as
the same one, and so written in the same way, when any of its fields, at any depth, are given under
their plain names in place of the names that are written. -/
theorem written_and_respelled_read (model : Model) :
    (∀ value : model.Value, model.Sayable value →
      (read (write value) : Reading model.Value) = .good value) ∧
    ∀ (json later : Json) (value : model.Value),
      Relation.ReflTransGen (Respells model.shape) json later →
        (read json : Reading model.Value) = .good value →
          (read later : Reading model.Value) = .good value :=
  ⟨model.said_reads_back, fun _ _ _ steps good => respelled_closure steps good⟩

/-- A verdict is read from its fixes, and from the path within one, under their plain names. -/
theorem respelled_verdict_read :
    let verdict : Verdict := ⟨.warn, ⟨.layout, none⟩, [], [⟨.move, some "a.ts", "Move it"⟩], .high⟩
    let later : Json := .obj [("status", .str "warn"), ("owner", .obj [("kind", .str "layout")]),
      ("violations", .arr []), ("suggested_fixes", .arr [.obj [("action", .str "move"),
        ("to_path", .str "a.ts"), ("rationale", .str "Move it")]]), ("confidence", .str "high")]
    let model := Model.of .verdict
    model.Sayable verdict ∧ (read (write verdict) : Reading Verdict) = .good verdict ∧
      Relation.ReflTransGen (Respells model.shape) (write verdict) later ∧
      (read later : Reading Verdict) = .good verdict := by
  intro verdict later model
  have said : model.Sayable verdict := trivial
  obtain ⟨back, respelled⟩ := written_and_respelled_read model
  let front : List Json.Member := [("status", .str "warn"),
    ("owner", .obj [("kind", .str "layout")]), ("violations", .arr [])]
  have path : Respells (Formed.shape Fix) (write (⟨.move, some "a.ts", "Move it"⟩ : Fix))
      (.obj [("action", .str "move"), ("to_path", .str "a.ts"), ("rationale", .str "Move it")]) :=
    .here ⟨"toPath", "to_path"⟩ [("action", .str "move")] [("rationale", .str "Move it")]
      (.str "a.ts") (.tail _ (.head _)) (by simp)
  have within : Respells model.shape (write verdict) _ :=
    .within ⟨"suggestedFixes", "suggested_fixes"⟩ front [("confidence", .str "high")]
      (.tail _ (.tail _ (.tail _ (.head _)))) (Or.inl rfl) (.item [] [] path)
  have fixes : Respells model.shape _ later :=
    .here ⟨"suggestedFixes", "suggested_fixes"⟩ front [("confidence", .str "high")] _
      (.tail _ (.tail _ (.tail _ (.head _)))) (by simp [front])
  have steps := Relation.ReflTransGen.single within |>.tail fixes
  exact ⟨said, back verdict said, steps, respelled _ later verdict steps (back verdict said)⟩

end StorefrontSurvey.Wire
