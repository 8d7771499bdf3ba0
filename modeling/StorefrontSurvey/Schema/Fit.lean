import StorefrontSurvey.Schema.Catalog
import StorefrontSurvey.Schema.Location
/-!
Whether a constant is a value of a type, and what can stop a schema from being built.
-/
namespace StorefrontSurvey.Schema

open Text (Wide)

inductive BuildFault where
  | fieldNotOutput
  | argumentNotInput
  | inputFieldNotInput
  | notInterfaces (type : String)
  | notObjects (type : String)
  /-- A part of a type (its fields, its interfaces or its members) cannot be worked out. -/
  | unresolved (type part : String) (cause : BuildFault)
  | badArgument (name value : String) (position : Nat)
  | nullArgument (name type : String) (position : Nat)
  | missingArgument (name type : String) (position : Nat)
  | notInputType (type : String)
  /-- Defaults of input types that lead back to themselves. -/
  | endless
  | notACatalog
  /-- What an introspection result lacks or has too much of, in words. -/
  | introspection (words : Wide)
  /-- Like `introspection`, where the way to the fault was barred. -/
  | barred (words : Wide)
  | defaultValue (text : Wide) (fault : SyntaxFault)
  deriving Repr

def BuildFault.message (text : Wide) : BuildFault → Wide
  | .fieldNotOutput => .of "Field type must be an output type."
  | .argumentNotInput => .of "Argument type must be a GraphQL input type."
  | .inputFieldNotInput => .of "Input field type must be a GraphQL input type."
  | .notInterfaces type =>
    .of (type ++
      " interfaces must be specified as a collection of GraphQLInterfaceType instances.")
  | .notObjects type =>
    .of (type ++ " types must be specified as a collection of GraphQLObjectType instances.")
  | .unresolved type part cause =>
    Wide.of (type ++ " " ++ part ++ " cannot be resolved. ") ++ cause.message text
  | .badArgument name value position =>
    located text (.of ("Argument " ++ quoted name ++ " has invalid value " ++ value ++ "."))
      position
  | .nullArgument name type position =>
    located text (.of ("Argument " ++ quoted name ++ " of non-null type " ++ quoted type ++
      " must not be null.")) position
  | .missingArgument name type position =>
    located text (.of ("Argument " ++ quoted name ++ " of required type " ++ quoted type ++
      " was not provided.")) position
  | .notInputType type => .of ("Unexpected input type: " ++ type ++ ".")
  | .endless => .of "maximum recursion depth exceeded"
  | .notACatalog => .of "Schema must contain uniquely named types."
  | .introspection words => words
  | .barred words => words
  | .defaultValue text fault => fault.message text

abbrev Build := Except BuildFault

def Catalog.ofTypes (types : List NamedType) : Build Catalog :=
  match Catalog.ofTypes? types with
  | some catalog => .ok catalog
  | none => .error .notACatalog

/-- An input field, as far as constants have to fit it. -/
structure InputField where
  name : String
  type : TypeRef
  /-- The default, if there is one that fits the type. -/
  default? : Option Value
  deriving Repr

/-- What the types of a schema say about constants. -/
structure Types where
  kind? : String → Option Kind
  enumValues : String → List String
  /-- Input types of which exactly one field is given. -/
  isOneOf : String → Bool
  inputFields : String → Build (List InputField)

def isInt32 (digits : List Char) : Bool :=
  let (negative, digits) := match digits with
    | '-' :: rest => (true, rest)
    | _ => (false, digits)
  let n := digits.foldl (fun n c => n * 10 + (c.toNat - '0'.toNat)) 0
  if negative then n ≤ 2147483648 else n ≤ 2147483647

/-- Whether a constant that is no list, no object and not null fits a type that is no list. -/
def fitsLeaf (types : Types) (v : Value) (name : String) : Bool :=
  match types.kind? name with
  | some .enum =>
    match v with
    | .enum word => (types.enumValues name).contains word
    | _ => false
  | some .scalar =>
    match name, v with
    | "Int", .int text => isInt32 text.toList
    | "Int", _ => false
    | "Float", .int _ => true
    | "Float", .float _ => true
    | "Float", _ => false
    | "String", .string _ => true
    | "String", .block _ => true
    | "String", _ => false
    | "Boolean", .bool _ => true
    | "Boolean", _ => false
    | "ID", .string _ => true
    | "ID", .block _ => true
    | "ID", .int _ => true
    | "ID", _ => false
    | _, _ => true
  | _ => false

/-- Whether a list or an object fits a scalar: those that are not standard take anything. -/
def fitsScalar (name : String) : Bool := !scalarNames.contains name

def isVariable : Value → Bool
  | .variable _ => true
  | _ => false

def isNull : Value → Bool
  | .null => true
  | _ => false

structure Fitting where
  name : String
  value : Value
  fits : TypeRef → Build Bool

/-- Whether an object's fields fit the fields of an input type. The declared fields are gone through
in order, up to the first that does not fit; `given` counts the object's fields that are declared.
-/
def fitsFields (fittings : List Fitting) : List InputField → Build Bool
  | [] => pure true
  | f :: rest =>
    match fittings.reverse.find? fun g => g.name == f.name && !isVariable g.value with
    | none =>
      if f.default?.isSome || !f.type.isNonNull then fitsFields fittings rest else pure false
    | some g => do
      if ← g.fits f.type then fitsFields fittings rest else pure false

/-- Whether exactly one declared field is given, and not as null. -/
def givesOne (fittings : List Fitting) (fields : List InputField) : Bool :=
  let given := fields.filterMap fun f =>
    match fittings.reverse.find? fun g => g.name == f.name && !isVariable g.value with
    | some g => some (isNull g.value)
    | none => f.default?.map isNull
  given = [false]

/-- A type without the marks that it may not be null. -/
def TypeRef.bare : TypeRef → TypeRef
  | .nonNull type => type.bare
  | type => type

mutual

def fits (types : Types) : Value → TypeRef → Build Bool
  | .variable _, _ => pure false
  | .null, type => pure !type.isNonNull
  | .list items, type =>
    match type.bare with
    | .list item => fitsAll types items item
    | bare =>
      match types.kind? bare.name with
      | some .scalar => pure (fitsScalar bare.name)
      | some .enum => pure false
      | some .input => pure false
      | _ => .error (.notInputType bare.name)
  | .object fields, type =>
    let name := type.name
    match types.kind? name with
    | some .scalar => pure (fitsScalar name)
    | some .enum => pure false
    | some .input => do
      let declared ← types.inputFields name
      let fittings := fittingsOf types fields
      if ← fitsFields fittings declared then
        pure (!types.isOneOf name || givesOne fittings declared)
      else pure false
    | _ => .error (.notInputType name)
  | v, type =>
    match types.kind? type.name with
    | some .scalar => pure (fitsLeaf types v type.name)
    | some .enum => pure (fitsLeaf types v type.name)
    | some .input => pure false
    | _ => .error (.notInputType type.name)

/-- Whether all items fit a type. A variable fits where null does. -/
def fitsAll (types : Types) : List Value → TypeRef → Build Bool
  | [], _ => pure true
  | v :: rest, type => do
    if isVariable v then
      if type.isNonNull then pure false else fitsAll types rest type
    else if ← fits types v type then fitsAll types rest type
    else pure false

def fittingsOf (types : Types) : List (String × Value) → List Fitting
  | [] => []
  | (name, v) :: rest => ⟨name, v, fits types v⟩ :: fittingsOf types rest

end

/-- A default, if it fits its type: one that does not is no default. -/
def fittingDefault? (types : Types) (default? : Option Value) (type : TypeRef) :
    Build (Option Value) :=
  match default? with
  | none => pure none
  | some value => do return if ← fits types value type then some value else none

/-! ### Constants as text -/

def escapeInString (c : Char) : List Char :=
  if c = '"' then ['\\', '"']
  else if c = '\\' then ['\\', '\\']
  else if c = '\x08' then ['\\', 'b']
  else if c = '\t' then ['\\', 't']
  else if c = '\n' then ['\\', 'n']
  else if c = '\x0c' then ['\\', 'f']
  else if c = '\r' then ['\\', 'r']
  else if c.toNat < 0x20 ∨ (0x7F ≤ c.toNat ∧ c.toNat < 0xA0) then
    let digits := hexDigits c.toNat
    '\\' :: 'u' :: List.replicate (4 - digits.length) '0' ++ digits
  else [c]

def tripleQuote : String := "\"\"\""

/-- A string in triple quotes; it stands on lines of its own if it has several lines, is long, or
ends in a quote or a backslash. -/
def blockText (value : String) : String :=
  let escaped := value.replace tripleQuote ("\\" ++ tripleQuote)
  let lines := (linesOf (.of escaped)).map Wide.chars
  let single := lines.length = 1
  let indented := !single && (lines.drop 1).all fun l => l.isEmpty || isIndentOnly (l.take 1)
  let endsInTriple := escaped.endsWith ("\\" ++ tripleQuote)
  let endsOddly := (value.endsWith "\"" && !endsInTriple) || value.endsWith "\\"
  let several := !single || 70 < value.length || endsOddly || indented || endsInTriple
  let startsIndented := single && (value.toList.take 1).any isIndent
  let before := if (several && !startsIndented) || indented then "\n" else ""
  let after := if several || endsOddly then "\n" else ""
  tripleQuote ++ before ++ escaped ++ after ++ tripleQuote

mutual

def Value.text : Value → String
  | .variable name => "$" ++ name
  | .int text => text
  | .float text => text
  | .string value => "\"" ++ String.ofList (value.toList.flatMap escapeInString) ++ "\""
  | .block value => blockText value
  | .bool true => "true"
  | .bool false => "false"
  | .null => "null"
  | .enum name => name
  | .list items => "[" ++ ", ".intercalate (itemTexts items) ++ "]"
  | .object fields => "\x7b" ++ ", ".intercalate (fieldTexts fields) ++ "\x7d"

def itemTexts : List Value → List String
  | [] => []
  | v :: rest => v.text :: itemTexts rest

def fieldTexts : List (String × Value) → List String
  | [] => []
  | (name, v) :: rest => (name ++ ": " ++ v.text) :: fieldTexts rest

end

end StorefrontSurvey.Schema
