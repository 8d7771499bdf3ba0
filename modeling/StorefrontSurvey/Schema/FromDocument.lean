import StorefrontSurvey.Schema.Fit
import StorefrontSurvey.Schema.Parser
import StorefrontSurvey.Schema.Rules
/-!
From documents to catalogs. Directives on scalars and enum values are looked at first, then the
definitions of directives, then the types in order, each with its extensions.
-/
namespace StorefrontSurvey.Schema

/-- The types of a document: definitions with their extensions. -/
structure Source where
  types : List TypeDef
  extensions : List TypeDef

def Source.of (doc : Document) : Source :=
  { types := definedTypes doc
    extensions := doc.filterMap fun
      | .typeExtension d => some d
      | _ => none }

namespace Source

def def? (s : Source) (name : String) : Option TypeDef := s.types.find? fun d => d.name == name

def parts (s : Source) (d : TypeDef) : List TypeDef :=
  d :: s.extensions.filter fun e => e.name == d.name

end Source

def TypeBody.kind : TypeBody → Kind
  | .scalar => .scalar
  | .object .. => .object
  | .interface .. => .interface
  | .union _ => .union
  | .enum _ => .enum
  | .input _ => .input

def TypeBody.fieldDefs : TypeBody → List FieldDef
  | .object _ fields => fields
  | .interface _ fields => fields
  | _ => []

def TypeBody.interfaces : TypeBody → List String
  | .object supers _ => supers
  | .interface supers _ => supers
  | _ => []

def TypeBody.members : TypeBody → List String
  | .union members => members
  | _ => []

def TypeBody.inputs : TypeBody → List InputValue
  | .input fields => fields
  | _ => []

/-- The kind of a type; standard types keep theirs. -/
def Source.kind? (s : Source) (name : String) : Option Kind :=
  match standardType? name with
  | some t => some t.kind
  | none => (s.def? name).map fun d => d.body.kind

/-! ### Directives with a meaning -/

/-- The argument of a directive's use that counts. -/
def Directive.arg? (d : Directive) (name : String) : Option Argument :=
  d.args.reverse.find? fun a => a.name == name

def firstUse? (ds : List Directive) (name : String) : Option Directive :=
  ds.find? fun d => d.name == name

def isText : Value → Bool
  | .string _ => true
  | .block _ => true
  | _ => false

/-- A reason for deprecation has to be a text. -/
def checkDeprecation (ds : List Directive) : Build Unit :=
  match (firstUse? ds "deprecated").bind fun d => d.arg? "reason" with
  | some a =>
    if isText a.value || isNull a.value then .ok ()
    else .error (.badArgument "reason" a.value.text a.position)
  | none => .ok ()

/-- A specification's address has to be given, and to be a text. -/
def checkSpecification (ds : List Directive) : Build Unit :=
  match firstUse? ds "specifiedBy" with
  | none => .ok ()
  | some d =>
    match d.arg? "url" with
    | none => .error (.missingArgument "url" "String!" d.position)
    | some a =>
      if isNull a.value then .error (.nullArgument "url" "String!" a.position)
      else if isText a.value then .ok ()
      else .error (.badArgument "url" a.value.text a.position)

/-! ### Input fields and arguments -/

def inputField (types : Types) (fault : BuildFault) (v : InputValue) : Build InputField := do
  let default? ← fittingDefault? types v.default? v.type
  checkDeprecation v.directives
  match types.kind? v.type.name with
  | some kind => if kind.isInput then return ⟨v.name, v.type, default?⟩ else throw fault
  | none => throw fault

def checkInput (types : Types) (fault : BuildFault) (v : InputValue) : Build Unit :=
  (inputField types fault v).map fun _ => ()

/-- What the types of a document say about constants, where the defaults of input types are followed
as often as the first argument allows. -/
def Source.typesAt (s : Source) : Nat → Types
  | 0 =>
    { kind? := s.kind?
      enumValues := fun _ => []
      isOneOf := fun _ => false
      inputFields := fun _ => .error .endless }
  | depth + 1 =>
    { kind? := s.kind?
      enumValues := fun name =>
        match s.def? name with
        | some d => (s.parts d).flatMap fun p => p.body.enumNames
        | none => []
      isOneOf := fun name =>
        match s.def? name with
        | some d => (firstUse? d.directives "oneOf").isSome
        | none => false
      inputFields := fun name =>
        match s.def? name with
        | none => .ok []
        | some d =>
          let inputs := (s.parts d).flatMap fun p => p.body.inputs
          match inputs.mapM (inputField (s.typesAt depth) .inputFieldNotInput) with
          | .error fault => .error (.unresolved name "fields" fault)
          | .ok fields => .ok fields }

/-- Defaults that lead to more input types than there are lead back to one of them. -/
def Source.toTypes (s : Source) : Types := s.typesAt (s.types.length + 2)

/-! ### Types -/

def buildField (types : Types) (f : FieldDef) : Build Field := do
  f.args.forM (checkInput types .argumentNotInput)
  checkDeprecation f.directives
  match types.kind? f.type.name with
  | some kind =>
    if kind.isOutput then
      .ok ⟨f.name, f.type, f.args.map fun a => ⟨a.name, a.type⟩⟩
    else .error .fieldNotOutput
  | none => .error .fieldNotOutput

/-- What is looked at before any type is built. -/
def checkEarly (d : TypeDef) (parts : List TypeDef) : Build Unit :=
  match d.body with
  | .scalar => checkSpecification d.directives
  | .enum _ => parts.forM fun p =>
    match p.body with
    | .enum values => values.forM fun v => checkDeprecation v.directives
    | _ => .ok ()
  | _ => .ok ()

def Source.buildType (s : Source) (types : Types) (d : TypeDef) : Build NamedType := do
  match standardType? d.name with
  | some t => .ok t
  | none =>
    let parts := s.parts d
    let supers := parts.flatMap fun p => p.body.interfaces
    if supers.any fun i => types.kind? i ≠ some .interface then throw (.notInterfaces d.name)
    let members := parts.flatMap fun p => p.body.members
    if members.any fun m => types.kind? m ≠ some .object then throw (.notObjects d.name)
    match d.body.kind with
    | .input =>
      let _ ← types.inputFields d.name
      .ok ⟨d.name, .input, []⟩
    | kind =>
      match (parts.flatMap fun p => p.body.fieldDefs).mapM (buildField types) with
      | .ok fields => .ok ⟨d.name, kind, fields⟩
      | .error fault => .error (.unresolved d.name "fields" fault)

/-! ### Catalogs -/

def inputTypeNames (v : InputValue) : List String := [v.type.name]

def TypeBody.usedNames (b : TypeBody) : List String :=
  b.interfaces ++ b.members ++ b.inputs.flatMap inputTypeNames ++
    b.fieldDefs.flatMap fun f => f.type.name :: f.args.flatMap inputTypeNames

/-- The types that a type refers to; what is written of a standard type does not count. -/
def TypeDef.usedNames (d : TypeDef) : List String :=
  if (standardType? d.name).isSome then [] else d.body.usedNames

def usedNames (doc : Document) : List String :=
  doc.flatMap fun
    | .schema _ operations => operations.map OperationType.type
    | .schemaExtension _ operations => operations.map OperationType.type
    | .type d => d.usedNames
    | .typeExtension d => d.usedNames
    | .directive d => d.args.flatMap inputTypeNames
    | _ => []

/-- The types of the schema that a document defines, if the document keeps all rules. -/
def schemaTypes (doc : Document) : Build (List NamedType) := do
  let source := Source.of doc
  let types := source.toTypes
  source.types.forM fun d =>
    if (standardType? d.name).isSome then pure () else checkEarly d (source.parts d)
  (definedDirectives doc).forM fun d => d.args.forM (checkInput types .argumentNotInput)
  let built ← source.types.mapM (source.buildType types)
  return withStandard built (usedNames doc)

/-- The catalog of a document that keeps all rules. -/
def Catalog.ofDocument (doc : Document) : Build Catalog := do
  Catalog.ofTypes (← schemaTypes doc)

/-- Why a text is not the definition of a schema. -/
inductive DefinitionFault where
  | grammar (fault : SyntaxFault)
  | rules (violations : List Violation)
  | build (fault : BuildFault)
  deriving Repr

def DefinitionFault.message (text : Text.Wide) : DefinitionFault → Text.Wide
  | .grammar fault => fault.message text
  | .rules violations => .of ("\n\n".intercalate (violations.map Violation.message))
  | .build fault => fault.message text

def Catalog.ofText (text : Text.Wide) : Except DefinitionFault Catalog :=
  match Document.parse text with
  | .error fault => .error (.grammar fault)
  | .ok doc =>
    match violations doc with
    | [] =>
      match Catalog.ofDocument doc with
      | .error fault => .error (.build fault)
      | .ok catalog => .ok catalog
    | broken => .error (.rules broken)

end StorefrontSurvey.Schema
