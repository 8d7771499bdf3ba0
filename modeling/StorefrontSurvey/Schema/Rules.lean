import StorefrontSurvey.Schema.Catalog
import StorefrontSurvey.Schema.Nearness
/-!
The rules that a document has to keep before types are built from it. A document is walked from its
start to its end; each part is checked when it is entered, by all rules in turn, except that what
a directive lacks is reported when the directive has been walked.
-/
namespace StorefrontSurvey.Schema

/-- The ways in which a document can break the rules. -/
inductive Violation where
  | secondSchema
  | secondOperation (operation : Operation)
  | secondType (name : String)
  | secondEnumValue (type value : String)
  | secondField (type field : String)
  | secondArgumentDef (owner arg : String)
  | secondDirectiveDef (name : String)
  | unknownType (name : String) (near : List String)
  | unknownDirective (name : String)
  | misplacedDirective (name : String) (site : Site)
  | repeatedDirective (name : String)
  | extendsUnknown (name : String) (near : List String)
  | extendsOther (kind name : String)
  | unknownDirectiveArgument (arg directive : String) (near : List String)
  | secondArgument (name : String)
  | secondInputField (name : String)
  | missingDirectiveArgument (directive arg type : String)
  deriving DecidableEq, Repr

def apostrophes (text : String) : String := "'" ++ text ++ "'"

def Violation.message : Violation → String
  | .secondSchema => "Must provide only one schema definition."
  | .secondOperation operation =>
    "There can be only one " ++ operation.word ++ " type in schema."
  | .secondType name => "There can be only one type named " ++ apostrophes name ++ "."
  | .secondEnumValue type value =>
    "Enum value " ++ apostrophes (type ++ "." ++ value) ++ " can only be defined once."
  | .secondField type field =>
    "Field " ++ apostrophes (type ++ "." ++ field) ++ " can only be defined once."
  | .secondArgumentDef owner arg =>
    "Argument " ++ apostrophes (owner ++ "(" ++ arg ++ ":)") ++ " can only be defined once."
  | .secondDirectiveDef name =>
    "There can be only one directive named " ++ apostrophes ("@" ++ name) ++ "."
  | .unknownType name near => "Unknown type " ++ apostrophes name ++ "." ++ didYouMean near
  | .unknownDirective name => "Unknown directive " ++ apostrophes ("@" ++ name) ++ "."
  | .misplacedDirective name site =>
    "Directive " ++ apostrophes ("@" ++ name) ++ " may not be used on " ++ site.phrase ++ "."
  | .repeatedDirective name =>
    "The directive " ++ apostrophes ("@" ++ name) ++ " can only be used once at this location."
  | .extendsUnknown name near =>
    "Cannot extend type " ++ apostrophes name ++ " because it is not defined." ++ didYouMean near
  | .extendsOther kind name =>
    "Cannot extend non-" ++ kind ++ " type " ++ apostrophes name ++ "."
  | .unknownDirectiveArgument arg directive near =>
    "Unknown argument " ++ apostrophes arg ++ " on directive " ++ apostrophes ("@" ++ directive) ++
      "." ++ didYouMean near
  | .secondArgument name => "There can be only one argument named " ++ apostrophes name ++ "."
  | .secondInputField name =>
    "There can be only one input field named " ++ apostrophes name ++ "."
  | .missingDirectiveArgument directive arg type =>
    "Directive " ++ apostrophes ("@" ++ directive) ++ " argument " ++ apostrophes arg ++
      " of type " ++ apostrophes type ++ " is required, but it was not provided."

/-! ### What every document knows -/

/-- Names of the types that need no definition. -/
def standardNames : List String := standardTypes.map NamedType.name

def plainArg (name : String) (type : TypeRef) : InputValue := ⟨name, type, none, []⟩

/-- Directives that need no definition. -/
def standardDirectives : List DirectiveDef :=
  [⟨"include", [plainArg "if" (.nonNull (.named "Boolean"))], false,
      [.field, .fragmentSpread, .inlineFragment]⟩,
    ⟨"skip", [plainArg "if" (.nonNull (.named "Boolean"))], false,
      [.field, .fragmentSpread, .inlineFragment]⟩,
    ⟨"deprecated", [⟨"reason", .named "String", some (.string "No longer supported"), []⟩], false,
      [.fieldDefinition, .argumentDefinition, .inputFieldDefinition, .enumValue,
        .directiveDefinition]⟩,
    ⟨"specifiedBy", [plainArg "url" (.nonNull (.named "String"))], false, [.scalar]⟩,
    ⟨"oneOf", [], false, [.inputObject]⟩]

/-- What a document defines, as far as its rules look it up. -/
structure Known where
  types : List TypeDef
  directives : List DirectiveDef

def definedTypes (doc : Document) : List TypeDef :=
  doc.filterMap fun
    | .type d => some d
    | _ => none

def definedDirectives (doc : Document) : List DirectiveDef :=
  doc.filterMap fun
    | .directive d => some d
    | _ => none

def Known.of (doc : Document) : Known :=
  ⟨definedTypes doc, standardDirectives ++ definedDirectives doc⟩

/-- The last definition of a directive counts. -/
def Known.directive? (known : Known) (name : String) : Option DirectiveDef :=
  known.directives.reverse.find? fun d => d.name == name

def Known.typeNames (known : Known) : List String := known.types.map TypeDef.name

/-! ### The walk -/

/-- What has been met so far, and what was wrong; the last violation first. -/
structure Walk where
  schemas : Nat := 0
  operations : List Operation := []
  types : List String := []
  directiveDefs : List String := []
  /-- Enum values by their types. -/
  enumValues : List (String × String) := []
  /-- Fields by their types. -/
  fields : List (String × String) := []
  /-- Directives on the schema. -/
  onSchema : List String := []
  /-- Directives by the types that they are applied to. -/
  onTypes : List (String × String) := []
  violations : List Violation := []

abbrev Walker := StateM Walk

def report (v : Violation) : Walker Unit :=
  modify fun w => { w with violations := v :: w.violations }

/-- The names that occur more than once, in the order in which they first occur. -/
def repeatedNames (names : List String) : List String :=
  names.eraseDups.filter fun n => 1 < names.count n

mutual

def walkValue : Value → Walker Unit
  | .list items => walkValues items
  | .object fields => walkFields [] fields
  | _ => pure ()

def walkValues : List Value → Walker Unit
  | [] => pure ()
  | v :: rest => do
    walkValue v
    walkValues rest

def walkFields (seen : List String) : List (String × Value) → Walker Unit
  | [] => pure ()
  | (name, v) :: rest => do
    if seen.contains name then report (.secondInputField name)
    walkValue v
    walkFields (name :: seen) rest

end

def walkArguments (args : List Argument) : Walker Unit :=
  args.forM fun a => walkValue a.value

/-- A use of a type: whether it stands in the definition of types decides which names need no
definition. -/
def walkTypeName (known : Known) (inTypes : Bool) (name : String) : Walker Unit := do
  if known.typeNames.contains name then return
  if inTypes && standardNames.contains name then return
  let options := if inTypes then standardNames ++ known.typeNames else known.typeNames
  report (.unknownType name (suggestions name options))

/-- Arguments that have to be given; of several with one name the last one counts. -/
def DirectiveDef.requiredArgs (d : DirectiveDef) : List InputValue :=
  let needed := d.args.filter fun a => a.type.isNonNull && a.default?.isNone
  (needed.map InputValue.name).eraseDups.filterMap fun n =>
    needed.reverse.find? fun a => a.name == n

def walkDirective (known : Known) (site : Site) (use : Directive) : Walker Unit := do
  let def? := known.directive? use.name
  match def? with
  | none => report (.unknownDirective use.name)
  | some d => if !d.sites.contains site then report (.misplacedDirective use.name site)
  let names := use.args.map Argument.name
  match def? with
  | none => pure ()
  | some d =>
    let options := d.args.map InputValue.name
    names.forM fun n => do
      if !options.contains n then
        report (.unknownDirectiveArgument n use.name (suggestions n options))
  (repeatedNames names).forM fun n => report (.secondArgument n)
  walkArguments use.args
  match def? with
  | none => pure ()
  | some d => d.requiredArgs.forM fun a => do
    if !names.contains a.name then
      report (.missingDirectiveArgument use.name a.name a.type.text)

def Known.isUnrepeatable (known : Known) (name : String) : Bool :=
  match known.directive? name with
  | some d => !d.repeatable
  | none => false

/-- Reports directives that may stand only once and were met before; answers all that were met. -/
def repeatsAmong (known : Known) : List String → List Directive → Walker (List String)
  | seen, [] => return seen
  | seen, d :: rest => do
    if known.isUnrepeatable d.name then
      if seen.contains d.name then
        report (.repeatedDirective d.name)
        repeatsAmong known seen rest
      else repeatsAmong known (d.name :: seen) rest
    else repeatsAmong known seen rest

/-- The directives on a part that stands by itself. -/
def enterDirectives (known : Known) (ds : List Directive) : Walker Unit := do
  let _ ← repeatsAmong known [] ds

/-- The directives on a schema or its extensions, which count together. -/
def enterSchemaDirectives (known : Known) (ds : List Directive) : Walker Unit := do
  let seen ← repeatsAmong known (← get).onSchema ds
  modify fun w => { w with onSchema := seen }

/-- The directives on a type and its extensions, which count together. -/
def enterTypeDirectives (known : Known) (type : String) (ds : List Directive) : Walker Unit := do
  let before := ((← get).onTypes.filter fun entry => entry.1 == type).map Prod.snd
  let seen ← repeatsAmong known before ds
  let fresh := seen.take (seen.length - before.length)
  modify fun w => { w with onTypes := fresh.map (type, ·) ++ w.onTypes }

def walkDirectives (known : Known) (site : Site) (ds : List Directive) : Walker Unit :=
  ds.forM (walkDirective known site)

def walkInputValue (known : Known) (site : Site) (v : InputValue) : Walker Unit := do
  enterDirectives known v.directives
  walkTypeName known true v.type.name
  v.default?.forM walkValue
  walkDirectives known site v.directives

def walkField (known : Known) (f : FieldDef) : Walker Unit := do
  enterDirectives known f.directives
  f.args.forM (walkInputValue known .argumentDefinition)
  walkTypeName known true f.type.name
  walkDirectives known .fieldDefinition f.directives

def walkEnumValue (known : Known) (v : EnumValueDef) : Walker Unit := do
  enterDirectives known v.directives
  walkDirectives known .enumValue v.directives

/-! ### Types -/

def TypeBody.site : TypeBody → Site
  | .scalar => .scalar
  | .object .. => .object
  | .interface .. => .interface
  | .union _ => .union
  | .enum _ => .enum
  | .input _ => .inputObject

def TypeBody.fieldNames : TypeBody → List String
  | .object _ fields => fields.map FieldDef.name
  | .interface _ fields => fields.map FieldDef.name
  | .input fields => fields.map InputValue.name
  | _ => []

def TypeBody.enumNames : TypeBody → List String
  | .enum values => values.map EnumValueDef.name
  | _ => []

def TypeBody.fieldArgs : TypeBody → List (String × List InputValue)
  | .object _ fields => fields.map fun f => (f.name, f.args)
  | .interface _ fields => fields.map fun f => (f.name, f.args)
  | _ => []

def checkEnumValues (type : String) (names : List String) : Walker Unit :=
  names.forM fun n => do
    if (← get).enumValues.contains (type, n) then report (.secondEnumValue type n)
    else modify fun w => { w with enumValues := (type, n) :: w.enumValues }

def checkFields (type : String) (names : List String) : Walker Unit :=
  names.forM fun n => do
    if (← get).fields.contains (type, n) then report (.secondField type n)
    else modify fun w => { w with fields := (type, n) :: w.fields }

def checkArgDefs (owner : String) (args : List InputValue) : Walker Unit :=
  (repeatedNames (args.map InputValue.name)).forM fun n => report (.secondArgumentDef owner n)

/-- The checks of a type, or of an extension of one, on its members' names. -/
def checkMembers (d : TypeDef) : Walker Unit := do
  checkEnumValues d.name d.body.enumNames
  checkFields d.name d.body.fieldNames
  d.body.fieldArgs.forM fun (field, args) => checkArgDefs (d.name ++ "." ++ field) args

/-- The parts of a type or of an extension; the fields of an extension of an input type count as
arguments. -/
def walkTypeParts (known : Known) (extending : Bool) (d : TypeDef) : Walker Unit := do
  match d.body with
  | .object supers _ => supers.forM (walkTypeName known true)
  | .interface supers _ => supers.forM (walkTypeName known true)
  | _ => pure ()
  walkDirectives known d.body.site d.directives
  match d.body with
  | .scalar => pure ()
  | .object _ fields => fields.forM (walkField known)
  | .interface _ fields => fields.forM (walkField known)
  | .union members => members.forM (walkTypeName known true)
  | .enum values => values.forM (walkEnumValue known)
  | .input fields =>
    fields.forM (walkInputValue known
      (if extending then .argumentDefinition else .inputFieldDefinition))

def checkTypeName (name : String) : Walker Unit := do
  if (← get).types.contains name then report (.secondType name)
  else modify fun w => { w with types := name :: w.types }

/-- An extension needs a type of its own kind. -/
def checkExtension (known : Known) (d : TypeDef) : Walker Unit := do
  match known.types.reverse.find? fun t => t.name == d.name with
  | some t =>
    if t.body.site ≠ d.body.site then report (.extendsOther d.body.site.phrase d.name)
  | none => report (.extendsUnknown d.name (suggestions d.name known.typeNames))

/-! ### Definitions -/

def checkOperations (operations : List OperationType) : Walker Unit :=
  operations.forM fun o => do
    if (← get).operations.contains o.operation then report (.secondOperation o.operation)
    else modify fun w => { w with operations := o.operation :: w.operations }

def walkSchemaParts (known : Known) (ds : List Directive) (operations : List OperationType) :
    Walker Unit := do
  walkDirectives known .schema ds
  operations.forM fun o => walkTypeName known true o.type

mutual

def walkSelection (known : Known) : Selection → Walker Unit
  | .field args ds selections => do
    enterDirectives known ds
    (repeatedNames (args.map Argument.name)).forM fun n => report (.secondArgument n)
    walkArguments args
    walkDirectives known .field ds
    walkSelections known selections
  | .spread ds => do
    enterDirectives known ds
    walkDirectives known .fragmentSpread ds
  | .inline type? ds selections => do
    enterDirectives known ds
    type?.forM (walkTypeName known false)
    walkDirectives known .inlineFragment ds
    walkSelections known selections

def walkSelections (known : Known) : List Selection → Walker Unit
  | [] => pure ()
  | s :: rest => do
    walkSelection known s
    walkSelections known rest

end

def walkVariable (known : Known) (v : VariableDef) : Walker Unit := do
  enterDirectives known v.directives
  walkTypeName known false v.type.name
  v.default?.forM walkValue
  walkDirectives known .variableDefinition v.directives

def Operation.site : Operation → Site
  | .query => .query
  | .mutation => .mutation
  | .subscription => .subscription

def walkDefinition (known : Known) : Definition → Walker Unit
  | .schema ds operations => do
    if 0 < (← get).schemas then report .secondSchema
    modify fun w => { w with schemas := w.schemas + 1 }
    checkOperations operations
    enterSchemaDirectives known ds
    walkSchemaParts known ds operations
  | .schemaExtension ds operations => do
    checkOperations operations
    enterSchemaDirectives known ds
    walkSchemaParts known ds operations
  | .type d => do
    checkTypeName d.name
    checkMembers d
    enterTypeDirectives known d.name d.directives
    walkTypeParts known false d
  | .typeExtension d => do
    checkMembers d
    enterTypeDirectives known d.name d.directives
    checkExtension known d
    walkTypeParts known true d
  | .directive d => do
    checkArgDefs ("@" ++ d.name) d.args
    if (← get).directiveDefs.contains d.name then report (.secondDirectiveDef d.name)
    else modify fun w => { w with directiveDefs := d.name :: w.directiveDefs }
    d.args.forM (walkInputValue known .argumentDefinition)
  | .operation operation declared ds selections => do
    enterDirectives known ds
    declared.forM (walkVariable known)
    walkDirectives known operation.site ds
    walkSelections known selections
  | .fragment type ds selections => do
    enterDirectives known ds
    walkTypeName known false type
    walkDirectives known .fragmentDefinition ds
    walkSelections known selections

/-- All that is wrong with a document, in the order of the document. -/
def violations (doc : Document) : List Violation :=
  let known := Known.of doc
  ((doc.forM (walkDefinition known)).run {}).2.violations.reverse

end StorefrontSurvey.Schema
