import StorefrontSurvey.Json.Shown
import StorefrontSurvey.Schema.Fit
import StorefrontSurvey.Schema.Parser
/-!
From introspection results to catalogs. A result is gone through in order, and the first thing that
is missing or misplaced is reported. Types are looked up by their names, so they may refer to types
that come later.
-/
namespace StorefrontSurvey.Schema

open Json (Raw)
open Text (Point Wide)

/-! ### Looking into values -/

def bad {α : Type} (words : String) : Build α := .error (.introspection (.of words))

def need (j : Raw) (key : String) : Build Raw :=
  match j with
  | .obj members =>
    match Raw.lookup members key with
    | some value => .ok value
    | none => bad (Text.quoted key)
  | .arr _ => bad "list indices must be integers or slices, not str"
  | .str _ => bad "string indices must be integers, not 'str'"
  | _ => bad (Text.quoted j.kindWord ++ " object is not subscriptable")

def look (j : Raw) (key : String) : Build Raw :=
  match j with
  | .obj members => .ok ((Raw.lookup members key).getD .null)
  | _ => .error (.barred (.of (Text.quoted j.kindWord ++ " object has no attribute 'get'")))

/-- The parts of a value one after the other: items, names of members, or characters. -/
def partsOf (j : Raw) : Build (List Raw) :=
  match j with
  | .arr items => .ok items
  | .obj members => .ok (members.map fun m => .str m.1)
  | .str text => .ok (text.map fun point => .str [point])
  | _ => bad (Text.quoted j.kindWord ++ " object is not iterable")

/-- Only values that are no lists and no objects can be looked up. -/
def checkKey (j : Raw) : Build Unit :=
  match j with
  | .arr _ => bad "unhashable type: 'list'"
  | .obj _ => bad "unhashable type: 'dict'"
  | _ => .ok ()

def isNullJson : Raw → Bool
  | .null => true
  | _ => false

def checkText (j : Raw) (message : String) : Build Unit :=
  match j with
  | .null => .ok ()
  | .str _ => .ok ()
  | _ => bad message

def checkName (j : Raw) : Build String :=
  match j with
  | .null => bad "Must provide name."
  | .str s =>
    match s with
    | [] => bad "Expected name to be a non-empty string."
    | first :: rest =>
      if !rest.all (Point.has isNamePart) then
        bad ("Names must only contain [_a-zA-Z0-9] but " ++ s.quoted ++ " does not.")
      else if !first.has isNameStart then
        bad ("Names must start with [_a-zA-Z] but " ++ s.quoted ++ " does not.")
      else .ok (String.ofList s.chars)
  | _ => bad "Expected name to be a string."

/-- Whether two values that can be looked up are the same. -/
def sameKey : Raw → Raw → Bool
  | .null, .null => true
  | .bool a, .bool b => a == b
  | .int a, .int b => a == b
  | .decimal a, .decimal b => a == b
  | .str a, .str b => a == b
  | _, _ => false

/-- Keyed parts, of which a later one takes the place of an earlier one with its key. -/
def keyed {α : Type} : List (Raw × α) → List (Raw × α)
  | [] => []
  | (key, value) :: rest =>
    let last := (rest.reverse.find? fun r => sameKey r.1 key).map Prod.snd
    (key, last.getD value) :: (keyed rest).filter fun r => !sameKey r.1 key

/-! ### Types as they are described -/

/-- A described type: its name, its kind, and the description that the rest is read from. -/
structure Described where
  name : String
  kind : Kind
  source : Raw
  enumValues : List String

/-- A type of a result: one that is known, or one that is described. -/
inductive Entry where
  | standard (t : NamedType)
  | described (d : Described)

namespace Entry

def name : Entry → String
  | standard t => t.name
  | described d => d.name

def kind : Entry → Kind
  | standard t => t.kind
  | described d => d.kind

end Entry

def incomplete (j : Raw) : String :=
  "Invalid or incomplete introspection result. Ensure that a full introspection query is used " ++
    "in order to build a client schema: " ++ j.shown ++ "."

def checkDescription (j : Raw) (message : String) : Build Unit := do
  checkText (← look j "description") message

def checkReason (j : Raw) (message : String) : Build Unit := do
  checkText (← look j "deprecationReason") message

def newType (kind : Kind) (j : Raw) (enumValues : List String) : Build Entry := do
  let name ← checkName (← need j "name")
  checkDescription j "The description must be a string."
  return .described ⟨name, kind, j, enumValues⟩

/-- The known type that a description names, if it names one. -/
def reserved? (j : Raw) : Build (Option NamedType) := do
  let name ← need j "name"
  checkKey name
  return name.word?.bind standardType?

/-- A type that may describe one that is known. -/
def knownOrNew (kind : Kind) (j : Raw) (more : Build (List String)) : Build Entry := do
  match ← reserved? j with
  | some t => return .standard t
  | none => newType kind j (← more)

/-- A type that may not describe one that is known. -/
def onlyNew (kind : Kind) (j : Raw) : Build Entry := do
  match ← reserved? j with
  | some t => bad ("Redefinition of reserved type " ++ Text.quoted t.name)
  | none => newType kind j []

def missingPart (part shown : String) : String :=
  "Introspection result missing " ++ part ++ ": " ++ shown ++ "."

/-- A part of a description that must not be null. -/
def needPart (j : Raw) (key part : String) : Build Raw := do
  let value ← look j key
  if isNullJson value then bad (missingPart part j.shown) else return value

def enumValue (j : Raw) : Build Raw := do
  let name ← need j "name"
  checkDescription j "The description of the enum value must be a string."
  checkReason j "The deprecation reason for the enum value must be a string."
  checkKey name
  return name

def enumNames (names : List Raw) : Build (List String) :=
  names.mapM fun j => do
    let name ← checkName j
    if ["true", "false", "null"].contains name then
      bad ("Enum values cannot be named: " ++ name ++ ".")
    return name

def scalarEntry (j : Raw) : Build Entry := do
  let entry ← knownOrNew .scalar j (pure [])
  match entry with
  | .standard _ => return entry
  | .described d =>
    let url ← look j "specifiedByURL"
    checkText url (d.name ++ " must provide 'specified_by_url' as a string, but got: " ++
      url.shown ++ ".")
    return entry

def enumEntry (j : Raw) : Build Entry := do
  let values ← needPart j "enumValues" "enumValues"
  match ← reserved? j with
  | some t => return .standard t
  | none =>
    let names ← (← partsOf values).mapM enumValue
    let entry ← newType .enum j []
    let names ← enumNames names
    match entry with
    | .described d => return .described { d with enumValues := names }
    | .standard _ => return entry

def entryOfKind (kind : String) (j : Raw) : Build Entry :=
  match kind with
  | "SCALAR" => scalarEntry j
  | "OBJECT" => knownOrNew .object j (pure [])
  | "INTERFACE" => onlyNew .interface j
  | "UNION" => do
    let _ ← needPart j "possibleTypes" "possibleTypes"
    onlyNew .union j
  | "ENUM" => enumEntry j
  | "INPUT_OBJECT" => do
    let _ ← needPart j "inputFields" "inputFields"
    onlyNew .input j
  | _ => bad (incomplete j)

def entryOf (j : Raw) : Build Entry :=
  match j with
  | .obj members =>
    match Raw.lookup members "name", Raw.lookup members "kind" with
    | some _, some kind => do
      checkKey kind
      match kind.word? with
      | some word => entryOfKind word j
      | none => bad (incomplete j)
    | _, _ => bad (incomplete j)
  | _ => bad (incomplete j)

/-! ### References -/

abbrev Entries := List Entry

def Entries.find? (entries : Entries) (name : String) : Option Entry :=
  List.find? (fun e => e.name == name) entries

def Entries.kind? (entries : Entries) (name : String) : Option Kind :=
  (entries.find? name).map Entry.kind

def unknownType (name : Raw) : BuildFault :=
  .introspection (Wide.of "Invalid or incomplete schema, unknown type: " ++ name.plainText ++
    Wide.of ". Ensure that a full introspection query is used in order to build a client schema.")

def tooDeep : String := "Decorated type deeper than introspection query."

def namedRef (entries : Entries) (j : Raw) : Build TypeRef := do
  let name ← look j "name"
  if !name.isSome then bad ("Unknown type reference: " ++ j.shown ++ ".")
  checkKey name
  match name.word? with
  | some word =>
    if (entries.find? word).isSome then return .named word else throw (unknownType name)
  | none => throw (unknownType name)

/-- The type that a value refers to; as deep as the first argument allows. -/
def refOf (entries : Entries) : Nat → Raw → Build TypeRef
  | 0, _ => .error .endless
  | depth + 1, j => do
    match (← look j "kind").word? with
    | some "LIST" =>
      let item ← look j "ofType"
      if !item.isSome then bad tooDeep
      return .list (← refOf entries depth item)
    | some "NON_NULL" =>
      let inner ← look j "ofType"
      if !inner.isSome then bad tooDeep
      let type ← refOf entries depth inner
      if type.isNonNull then
        bad ("Expected " ++ type.text ++ " to be a GraphQL nullable type.")
      return .nonNull type
    | _ => namedRef entries j

mutual

def depthOf : Raw → Nat
  | .arr items => depthOfItems items + 1
  | .obj members => depthOfMembers members + 1
  | _ => 1

def depthOfItems : List Raw → Nat
  | [] => 0
  | item :: rest => max (depthOf item) (depthOfItems rest)

def depthOfMembers : List Raw.Member → Nat
  | [] => 0
  | (_, value) :: rest => max (depthOf value) (depthOfMembers rest)

end

def typeOf (entries : Entries) (j : Raw) : Build TypeRef := refOf entries (depthOf j + 1) j

/-- A type that is named without brackets, of one kind. -/
def namedOfKind (entries : Entries) (kind : Kind) (word : String) (j : Raw) : Build String := do
  let type ← typeOf entries j
  match type with
  | .named name =>
    if entries.kind? name = some kind then return name
    else bad ("Expected " ++ name ++ " to be a GraphQL " ++ word ++ " type.")
  | _ => bad ("Expected " ++ type.text ++ " to be a GraphQL " ++ word ++ " type.")

/-! ### Arguments and fields -/

/-- What is said of a part that asks for values when something is wrong with it. -/
structure InputWords where
  place : String
  description : String
  reason : String

def argumentWords : InputWords :=
  ⟨"arguments", "Argument description must be a string.",
    "Argument deprecation reason must be a string."⟩

def inputFieldWords : InputWords :=
  ⟨"input fields", "Input field description must be a string.",
    "Input field deprecation reason must be a string."⟩

def defaultOf (types : Types) (type : TypeRef) : Raw → Build (Option Value)
  | .null => pure none
  | .str text =>
    match Value.parse text with
    | .error fault => .error (.defaultValue text fault)
    | .ok value => fittingDefault? types value type
  | _ => bad "body must be a string."

/-- A part that asks for values: its name, its type and its default. -/
def inputPart (entries : Entries) (types : Types) (words : InputWords) (j : Raw) :
    Build (Raw × TypeRef × Option Value) := do
  let name ← need j "name"
  let type ← typeOf entries (← need j "type")
  match entries.kind? type.name with
  | some kind =>
    if !kind.isInput then
      bad ("Introspection must provide input type for " ++ words.place ++ ", but received: " ++
        type.text ++ ".")
  | none => pure ()
  let default? ← defaultOf types type (← look j "defaultValue")
  checkDescription j words.description
  checkReason j words.reason
  checkKey name
  return (name, type, default?)

def inputParts (entries : Entries) (types : Types) (words : InputWords) (j : Raw) :
    Build (List (Raw × TypeRef × Option Value)) := do
  return keyed (← (← partsOf j).mapM (inputPart entries types words))

def areTexts (names : List Raw) : Bool :=
  names.all fun
    | .str _ => true
    | _ => false

def checkKeys (type : String) (names : List Raw) : Build Unit :=
  if areTexts names then .ok ()
  else bad (type ++ " fields must be specified as a mapping with field names as keys.")

/-- A part that answers: its name, its type and its arguments. -/
def fieldPart (entries : Entries) (types : Types) (j : Raw) :
    Build (Raw × TypeRef × List Param) := do
  let name ← need j "name"
  let type ← typeOf entries (← need j "type")
  match entries.kind? type.name with
  | some kind =>
    if !kind.isOutput then
      bad ("Introspection must provide output type for fields, but received: " ++ type.text ++ ".")
  | none => pure ()
  let args ← needPart j "args" "field args"
  let args ← inputParts entries types argumentWords args
  let args ← args.mapM fun (name, type, _) => return (⟨← checkName name, type⟩ : Param)
  checkDescription j "The description must be a string."
  checkReason j "The deprecation reason must be a string."
  checkKey name
  return (name, type, args)

/-! ### Types -/

/-- Names the part of a type that could not be worked out. -/
def ofPart {α : Type} (type part : String) (b : Build α) : Build α :=
  match b with
  | .ok value => .ok value
  | .error fault => .error (.unresolved type part fault)

def checkInterfaces (entries : Entries) (d : Described) : Build Unit :=
  ofPart d.name "interfaces" do
    let supers ← look d.source "interfaces"
    if isNullJson supers then
      if d.kind = .interface then return () else bad (missingPart "interfaces" d.source.shown)
    (← partsOf supers).forM fun j => do
      let _ ← namedOfKind entries .interface "Interface" j

def checkUnion (entries : Entries) (d : Described) : Build Unit :=
  ofPart d.name "types" do
    (← partsOf (← look d.source "possibleTypes")).forM fun j => do
      let _ ← namedOfKind entries .object "Object" j

def answerFields (entries : Entries) (types : Types) (d : Described) : Build (List Field) := do
  let fields ← ofPart d.name "fields" do
    let fields ← look d.source "fields"
    if isNullJson fields then bad (missingPart "fields" d.source.inFull)
    return keyed (← (← partsOf fields).mapM (fieldPart entries types))
  checkKeys d.name (fields.map Prod.fst)
  fields.mapM fun (name, type, args) => return ⟨← checkName name, type, args⟩

/-- What the types of a result say about constants; see `Source.typesAt`. -/
def Entries.typesAt (entries : Entries) : Nat → Types
  | 0 =>
    { kind? := entries.kind?
      enumValues := fun _ => []
      isOneOf := fun _ => false
      inputFields := fun _ => .error .endless }
  | depth + 1 =>
    { kind? := entries.kind?
      enumValues := fun name =>
        match entries.find? name with
        | some (.described d) => d.enumValues
        | _ => []
      isOneOf := fun name =>
        match entries.find? name with
        | some (.described d) =>
          match look d.source "isOneOf" with
          | .ok j => j.isSome
          | .error _ => false
        | _ => false
      inputFields := fun name =>
        match entries.find? name with
        | some (.described d) => do
          let fields ← ofPart name "fields" do
            inputParts entries (entries.typesAt depth) inputFieldWords
              (← look d.source "inputFields")
          checkKeys name (fields.map Prod.fst)
          fields.mapM fun (key, type, default?) =>
            return (⟨← checkName key, type, default?⟩ : InputField)
        | _ => .ok [] }

def Entries.toTypes (entries : Entries) : Types := entries.typesAt (entries.length + 2)

def typeOfEntry (entries : Entries) (types : Types) : Entry → Build NamedType
  | .standard t => .ok t
  | .described d =>
    match d.kind with
    | .object => do
      checkInterfaces entries d
      return ⟨d.name, .object, ← answerFields entries types d⟩
    | .interface => do
      checkInterfaces entries d
      return ⟨d.name, .interface, ← answerFields entries types d⟩
    | .union => do
      checkUnion entries d
      return ⟨d.name, .union, []⟩
    | .input => do
      let _ ← types.inputFields d.name
      return ⟨d.name, .input, []⟩
    | kind => .ok ⟨d.name, kind, []⟩

/-! ### Schemas -/

def checkDirective (entries : Entries) (types : Types) (j : Raw) : Build Unit := do
  let args ← needPart j "args" "directive args"
  let locations ← needPart j "locations" "directive locations"
  let name ← need j "name"
  let locations ← partsOf locations
  let args ← inputParts entries types argumentWords args
  let name ← checkName name
  if !(locations.all fun location => (location.word?.bind Site.ofName?).isSome) then
    bad (name ++ " locations must be specified as a collection of DirectiveLocation enum values.")
  if !areTexts (args.map Prod.fst) then
    bad (name ++ " args must be a dict with argument names as keys.")
  args.forM fun (arg, _, _) => do
    let _ ← checkName arg
  match ← look j "isRepeatable" with
  | .bool _ => pure ()
  | .null =>
    match j with
    | .obj members =>
      if (Raw.lookup members "isRepeatable").isSome then
        bad (name ++ " is_repeatable flag must be True or False.")
    | _ => pure ()
  | _ => bad (name ++ " is_repeatable flag must be True or False.")
  checkReason j (name ++ " deprecation reason must be a string.")
  checkDescription j (name ++ " description must be a string.")

def checkRoot (entries : Entries) (schema : Raw) (key : String) : Build Unit := do
  let ref ← look schema key
  if isNullJson ref then return ()
  let _ ← namedOfKind entries .object "Object" ref

def keyedEntry (j : Raw) : Build (Raw × Entry) := do
  let name ← need j "name"
  let entry ← entryOf j
  checkKey name
  return (name, entry)

/-- Known types stand for descriptions of them. -/
def settled (e : Entry) : Entry :=
  match standardType? e.name with
  | some t => .standard t
  | none => e

def invalidResult (j : Raw) : String :=
  "Invalid or incomplete introspection result. Ensure that you are passing the 'data' attribute " ++
    "of an introspection response and no 'errors' were returned alongside: " ++ j.shown ++ "."

/-- The types of the schema that an introspection result describes. -/
def introspectedTypes (result : Raw) : Build (List NamedType) := do
  let schema ← match result with
    | .obj members =>
      match Raw.lookup members "__schema" with
      | some (.obj schema) => pure (Raw.obj schema)
      | _ => bad (invalidResult result)
    | _ => bad (invalidResult result)
  let listed ← (← partsOf (← need schema "types")).mapM keyedEntry
  let entries : Entries := (keyed listed).map fun e => settled e.2
  let types := entries.toTypes
  checkRoot entries schema "queryType"
  checkRoot entries schema "mutationType"
  checkRoot entries schema "subscriptionType"
  let directives ← look schema "directives"
  if directives.isSome then
    (← partsOf directives).forM (checkDirective entries types)
  checkDescription schema "Schema description must be a string."
  let built ← entries.mapM (typeOfEntry entries types)
  return withStandard built []

def Catalog.ofIntrospection (result : Raw) : Build Catalog := do
  Catalog.ofTypes (← introspectedTypes result)

end StorefrontSurvey.Schema
