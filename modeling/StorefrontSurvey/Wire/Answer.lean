import StorefrontSurvey.Wire.Model
import StorefrontSurvey.Routes.Manifest
import StorefrontSurvey.Outline.Outline
import StorefrontSurvey.Placement.Verdict
/-!
The forms of routes, outlines, schema lookups and placement verdicts.
-/
namespace StorefrontSurvey.Wire

/-! ### Routes -/

instance : Wire Routes.RouteKind where
  write
    | .route => .str "route"
    | .resource => .str "resource"
    | .layout => .str "layout"
  read := readWord [("route", .route), ("resource", .resource), ("layout", .layout)]

instance : Wire Routes.Route where
  write r := .ofFields [("pattern", some (.str r.pattern)), ("file", some (.str r.file)),
    ("kind", some (write r.kind)), ("moduleGuess", r.module?.map write)]
  read := readObject fun ms =>
    Routes.Route.mk <$> required ms "pattern" <*> required ms "file" <*> required ms "kind" <*>
      optional ms ⟨"moduleGuess", "module_guess"⟩

structure RouteReport where
  routes : List Routes.Route
  confidence : Confidence
  warnings : Option (List Warning)
  deriving Repr

instance : Wire RouteReport where
  write r := .ofFields [("routes", some (write r.routes)),
    ("confidence", some (write r.confidence)), ("warnings", r.warnings.map write)]
  read := readObject fun ms =>
    RouteReport.mk <$> required ms "routes" <*> required ms "confidence" <*> optional ms "warnings"

/-! ### Outlines -/

instance : Wire Outline.Exports where
  write e := .ofFields [("default", e.default?.map write), ("named", some (write e.named))]
  read := readObject fun ms =>
    Outline.Exports.mk <$> optional ms "default" <*> withDefault ms "named" []

instance : Wire Outline.Symbols where
  write s := .obj [("functions", write s.functions), ("types", write s.types),
    ("classes", write s.classes), ("consts", write s.consts)]
  read := readObject fun ms =>
    Outline.Symbols.mk <$> withDefault ms "functions" [] <*> withDefault ms "types" [] <*>
      withDefault ms "classes" [] <*> withDefault ms "consts" []

instance : Wire Outline where
  write o := .obj [("imports", write o.imports), ("exports", write o.exports),
    ("symbols", write o.symbols)]
  read := readObject fun ms =>
    Outline.mk <$> withDefault ms "imports" [] <*>
      withDefault ms "exports" ⟨none, []⟩ <*> withDefault ms "symbols" ⟨[], [], [], []⟩

structure OutlineReport where
  outline : Outline
  confidence : Confidence
  warnings : Option (List Warning)
  deriving Repr

instance : Wire OutlineReport where
  write r := .ofFields [("outline", some (write r.outline)),
    ("confidence", some (write r.confidence)), ("warnings", r.warnings.map write)]
  read := readObject fun ms =>
    OutlineReport.mk <$> required ms "outline" <*> required ms "confidence" <*>
      optional ms "warnings"

/-! ### Schema lookups -/

structure Argument where
  name : String
  type : String
  deriving DecidableEq, Repr

instance : Wire Argument where
  write a := .obj [("name", .str a.name), ("type", .str a.type)]
  read := readObject fun ms => Argument.mk <$> required ms "name" <*> required ms "type"

structure Field where
  name : String
  returnType : String
  args : List Argument
  deriving DecidableEq, Repr

instance : Wire Field where
  write f := .obj [("name", .str f.name), ("returnType", .str f.returnType),
    ("args", write f.args)]
  read := readObject fun ms =>
    Field.mk <$> required ms "name" <*> required ms ⟨"returnType", "return_type"⟩ <*>
      withDefault ms "args" []

/-- A member that can only be one word, and is that word when it is not there. -/
def readMark (word : String) (members : List Json.Member) (key : Key) : Reading Unit :=
  match key.find? members with
  | some (name, value) => (readWord [(word, ())] value).within (.key name)
  | none => .good ()

/-- The answer to a search for a type by its name. -/
structure TypeAnswer where
  name : String
  fields : List Field
  deriving DecidableEq, Repr

instance : Wire TypeAnswer where
  write a := .obj [("kind", .str "type"), ("name", .str a.name), ("fields", write a.fields)]
  read := readObject fun ms =>
    (fun _ => TypeAnswer.mk) <$> readMark "type" ms "kind" <*> required ms "name" <*>
      required ms "fields"

structure FieldAnswer where
  parentType : String
  name : String
  returnType : String
  args : List Argument
  deriving DecidableEq, Repr

instance : Wire FieldAnswer where
  write a := .obj [("kind", .str "field"), ("parentType", .str a.parentType),
    ("name", .str a.name), ("returnType", .str a.returnType), ("args", write a.args)]
  read := readObject fun ms =>
    (fun _ => FieldAnswer.mk) <$> readMark "field" ms "kind" <*>
      required ms ⟨"parentType", "parent_type"⟩ <*> required ms "name" <*>
      required ms ⟨"returnType", "return_type"⟩ <*> withDefault ms "args" []

structure SearchAnswer where
  names : List String
  deriving DecidableEq, Repr

instance : Wire SearchAnswer where
  write a := .obj [("kind", .str "search"), ("matches", write a.names)]
  read := readObject fun ms =>
    (fun _ => SearchAnswer.mk) <$> readMark "search" ms "kind" <*> required ms "matches"

/-! ### Placement -/

inductive OwnerKind where
  | module
  | platform
  | layout
  | unknown
  deriving DecidableEq, Repr

instance : Wire OwnerKind where
  write
    | .module => .str "module"
    | .platform => .str "platform"
    | .layout => .str "layout"
    | .unknown => .str "unknown"
  read := readWord [("module", .module), ("platform", .platform), ("layout", .layout),
    ("unknown", .unknown)]

structure Owner where
  kind : OwnerKind
  name? : Option String
  deriving DecidableEq, Repr

instance : Wire Owner where
  write o := .ofFields [("kind", some (write o.kind)), ("name", o.name?.map write)]
  read := readObject fun ms => Owner.mk <$> required ms "kind" <*> optional ms "name"

structure Evidence where
  file : String
  deriving DecidableEq, Repr

instance : Wire Evidence where
  write e := .obj [("file", .str e.file)]
  read := readObject fun ms => Evidence.mk <$> required ms "file"

structure Violation where
  code : String
  message : String
  evidence? : Option (List Evidence)
  deriving DecidableEq, Repr

instance : Wire Violation where
  write v := .ofFields [("code", some (.str v.code)), ("message", some (.str v.message)),
    ("evidence", v.evidence?.map write)]
  read := readObject fun ms =>
    Violation.mk <$> required ms "code" <*> required ms "message" <*> optional ms "evidence"

inductive Action where
  | move
  | keep
  | extract
  | unknown
  deriving DecidableEq, Repr

instance : Wire Action where
  write
    | .move => .str "move"
    | .keep => .str "keep"
    | .extract => .str "extract"
    | .unknown => .str "unknown"
  read := readWord [("move", .move), ("keep", .keep), ("extract", .extract),
    ("unknown", .unknown)]

structure Fix where
  action : Action
  toPath? : Option String
  rationale : String
  deriving DecidableEq, Repr

instance : Wire Fix where
  write f := .ofFields [("action", some (write f.action)), ("toPath", f.toPath?.map write),
    ("rationale", some (.str f.rationale))]
  read := readObject fun ms =>
    Fix.mk <$> required ms "action" <*> optional ms ⟨"toPath", "to_path"⟩ <*>
      required ms "rationale"

instance : Wire Placement.Status where
  write
    | .pass => .str "pass"
    | .warn => .str "warn"
    | .fail => .str "fail"
  read := readWord [("pass", .pass), ("warn", .warn), ("fail", .fail)]

structure Verdict where
  status : Placement.Status
  owner : Owner
  violations : List Violation
  fixes : List Fix
  confidence : Confidence
  deriving Repr

/-- The members of a verdict without its confidence. -/
def Verdict.findings (v : Verdict) : List (String × Json) :=
  [("status", write v.status), ("owner", write v.owner), ("violations", write v.violations),
    ("suggestedFixes", write v.fixes)]

instance : Wire Verdict where
  write v := .obj (v.findings ++ [("confidence", write v.confidence)])
  read := readObject fun ms =>
    Verdict.mk <$> required ms "status" <*> required ms "owner" <*>
      withDefault ms "violations" [] <*> withDefault ms ⟨"suggestedFixes", "suggested_fixes"⟩ [] <*>
      withDefault ms "confidence" .high

def Owner.of : Placement.Owner → Owner
  | .module name => ⟨.module, some name⟩
  | .platform => ⟨.platform, none⟩
  | .layout => ⟨.layout, none⟩
  | .unknown => ⟨.unknown, none⟩

def Violation.of (v : Placement.Evidenced) : Violation :=
  ⟨v.violation.code, v.violation.message, some (v.files.map Evidence.mk)⟩

def Fix.of : Placement.Fix → Fix
  | .move target rationale => ⟨.move, some target, rationale⟩
  | .keep rationale => ⟨.keep, none, rationale⟩

def Verdict.of (v : Placement.Verdict) : Verdict :=
  ⟨v.status, .of v.owner, v.violations.map .of, v.fixes.map .of, v.confidence⟩

end StorefrontSurvey.Wire
