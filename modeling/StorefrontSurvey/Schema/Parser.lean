import StorefrontSurvey.Schema.Document
import StorefrontSurvey.Schema.Lexer
/-!
From tokens to documents. The token in front decides what is read, except that a description, or
the word `extend`, is looked past. Every rule that repeats has a bound, which the number of tokens
fills, and every rule that nests is told how many more levels it may open.
-/
namespace StorefrontSurvey.Schema

abbrev Parser := StateT Tokens (Except SyntaxFault)

namespace Parser

def peek : Parser Token := return (← get).head

def fail {α : Type} (cause : Cause) (position : Nat) : Parser α :=
  throw ⟨cause, position⟩

def unexpected {α : Type} (token : Token) : Parser α :=
  fail (.unexpected token.lexeme) token.start

/-- Brings tokens to the front, if they can be read. -/
def moveTo : Tokens → Parser Unit
  | .broken fault => throw fault
  | tokens => set tokens

def advance : Parser Unit := do
  match ← get with
  | .more _ rest => moveTo rest
  | _ => pure ()

def peekNext : Parser Token := do
  match ← get with
  | .more _ (.broken fault) => throw fault
  | .more _ rest => return rest.head
  | tokens => return tokens.head

def atPunct (p : Punct) : Parser Bool := return (← peek).lexeme == .punct p

def skip (p : Punct) : Parser Bool := do
  if ← atPunct p then advance; return true else return false

def expectPunct (p : Punct) : Parser Unit := do
  let token ← peek
  if token.lexeme == .punct p then advance
  else fail (.expected (quoted p.text) token.lexeme) token.start

def name : Parser String := do
  let token ← peek
  match token.lexeme with
  | .name text => advance; return text
  | found => fail (.expected "Name" found) token.start

def expectWord (word : String) : Parser Unit := do
  let token ← peek
  if token.lexeme == .name word then advance
  else fail (.expected (quoted word) token.lexeme) token.start

def skipWord (word : String) : Parser Bool := do
  if (← peek).lexeme == .name word then advance; return true else return false

def itemsUntil {α : Type} (close : Punct) (item : Parser α) : Nat → Parser (List α)
  | 0 => return []
  | bound + 1 => do
    if ← skip close then return []
    let first ← item
    return first :: (← itemsUntil close item bound)

/-- At least one item, up to a closing punctuator. -/
def someItems {α : Type} (bound : Nat) (close : Punct) (item : Parser α) : Parser (List α) := do
  let first ← item
  return first :: (← itemsUntil close item bound)

def between {α : Type} (bound : Nat) (openP close : Punct) (item : Parser α) :
    Parser (List α) := do
  expectPunct openP
  someItems bound close item

/-- At least one item between punctuators, or nothing at all. -/
def optionalBetween {α : Type} (bound : Nat) (openP close : Punct) (item : Parser α) :
    Parser (List α) := do
  if ← skip openP then someItems bound close item else return []

def moreDelimited {α : Type} (delimiter : Punct) (item : Parser α) : Nat → Parser (List α)
  | 0 => return []
  | bound + 1 => do
    if ← skip delimiter then
      let first ← item
      return first :: (← moreDelimited delimiter item bound)
    else return []

/-- Items with a delimiter between each two, and perhaps one in front. -/
def delimited {α : Type} (bound : Nat) (delimiter : Punct) (item : Parser α) :
    Parser (List α) := do
  let _ ← skip delimiter
  let first ← item
  return first :: (← moreDelimited delimiter item bound)

/-! ### Types and values -/

/-- The most levels of lists, objects and selections within each other. -/
def mostLevels : Nat := 200

def tooDeep {α : Type} : Parser α := do fail .nestedTooDeeply (← peek).start

/-- A type; `inner` reads the type between brackets. -/
def typeWith (inner : Parser TypeRef) : Parser TypeRef := do
  let type ← do
    if ← skip .bracketL then
      let item ← inner
      expectPunct .bracketR
      pure (TypeRef.list item)
    else pure (TypeRef.named (← name))
  if ← skip .bang then return .nonNull type else return type

/-- A type with some levels of brackets. The bracket that opens one level too many is still
taken. -/
def typeRefIn : Nat → Parser TypeRef
  | 0 => typeWith tooDeep
  | levels + 1 => typeWith (typeRefIn levels)

def typeRef : Parser TypeRef := typeRefIn mostLevels

def wordValue : String → Value
  | "true" => .bool true
  | "false" => .bool false
  | "null" => .null
  | word => .enum word

/-- A variable, which a constant may not hold. -/
def variableValue (constant : Bool) : Parser Value := do
  let dollar ← peek
  expectPunct .dollar
  if constant then
    match (← peek).lexeme with
    | .name text => fail (.variableInConstant text) dollar.start
    | _ => unexpected dollar
  else return .variable (← name)

def objectField (inner : Parser Value) : Parser (String × Value) := do
  let key ← name
  expectPunct .colon
  return (key, ← inner)

/-- A value; `inner?` reads the values within it, if it may hold some. -/
def valueWith (constant : Bool) (bound : Nat) (inner? : Option (Parser Value)) : Parser Value := do
  let token ← peek
  match token.lexeme with
  | .punct .bracketL =>
    match inner? with
    | none => tooDeep
    | some inner =>
      advance
      return .list (← itemsUntil .bracketR inner bound)
  | .punct .braceL =>
    match inner? with
    | none => tooDeep
    | some inner =>
      advance
      return .object (← itemsUntil .braceR (objectField inner) bound)
  | .int text => advance; return .int text
  | .float text => advance; return .float text
  | .string text => advance; return .string text
  | .block text => advance; return .block text
  | .name word => advance; return wordValue word
  | .punct .dollar => variableValue constant
  | _ => unexpected token

/-- A value with some levels of lists and objects. -/
def value (constant : Bool) (bound : Nat) : Nat → Parser Value
  | 0 => valueWith constant bound none
  | levels + 1 => valueWith constant bound (some (value constant bound levels))

/-! ### Parts of definitions -/

def argument (constant : Bool) (bound levels : Nat) : Parser Argument := do
  let key ← name
  expectPunct .colon
  let position := (← peek).start
  return ⟨key, ← value constant bound levels, position⟩

def argumentsIn (constant : Bool) (bound levels : Nat) : Parser (List Argument) :=
  optionalBetween bound .parenL .parenR (argument constant bound levels)

def directive (constant : Bool) (bound levels : Nat) : Parser Directive := do
  let position := (← peek).start
  expectPunct .atSign
  let key ← name
  return ⟨key, ← argumentsIn constant bound levels, position⟩

def directivesFrom (constant : Bool) (width levels : Nat) : Nat → Parser (List Directive)
  | 0 => return []
  | bound + 1 => do
    if ← atPunct .atSign then
      let first ← directive constant width levels
      return first :: (← directivesFrom constant width levels bound)
    else return []

def directivesIn (constant : Bool) (bound levels : Nat) : Parser (List Directive) :=
  directivesFrom constant bound levels bound

/-- Directives that stand outside of all selections. -/
def directives (constant : Bool) (bound : Nat) : Parser (List Directive) :=
  directivesIn constant bound mostLevels

def isDescription : Lexeme → Bool
  | .string _ => true
  | .block _ => true
  | _ => false

def description : Parser Unit := do
  if isDescription (← peek).lexeme then advance

def inputValue (bound : Nat) : Parser InputValue := do
  description
  let key ← name
  expectPunct .colon
  let type ← typeRef
  let default? ← if ← skip .equals then some <$> value true bound mostLevels else pure none
  return ⟨key, type, default?, ← directives true bound⟩

def argumentDefs (bound : Nat) : Parser (List InputValue) :=
  optionalBetween bound .parenL .parenR (inputValue bound)

def fieldDef (bound : Nat) : Parser FieldDef := do
  description
  let key ← name
  let args ← argumentDefs bound
  expectPunct .colon
  let type ← typeRef
  return ⟨key, args, type, ← directives true bound⟩

def fieldDefs (bound : Nat) : Parser (List FieldDef) :=
  optionalBetween bound .braceL .braceR (fieldDef bound)

def interfaces (bound : Nat) : Parser (List String) := do
  if ← skipWord "implements" then delimited bound .amp name else return []

def enumValueName : Parser String := do
  let token ← peek
  let reserved := match token.lexeme with
    | .name text => ["true", "false", "null"].contains text
    | .string text => ["true", "false", "null"].contains text
    | .block text => ["true", "false", "null"].contains text
    | _ => false
  if reserved then fail (.reservedValue token.lexeme) token.start else name

def enumValueDef (bound : Nat) : Parser EnumValueDef := do
  description
  let key ← enumValueName
  return ⟨key, ← directives true bound⟩

def operationWord : Parser Operation := do
  let token ← peek
  let word ← name
  match Operation.ofWord? word with
  | some operation => return operation
  | none => unexpected token

def operationType : Parser OperationType := do
  let operation ← operationWord
  expectPunct .colon
  return ⟨operation, ← name⟩

def site : Parser Site := do
  let token ← peek
  let word ← name
  match Site.ofName? word with
  | some s => return s
  | none => unexpected token

/-! ### Definitions of types -/

def unionMembers (bound : Nat) : Parser (List String) := do
  if ← skip .equals then delimited bound .pipe name else return []

/-- A type after its keyword: its name, its directives and what the keyword calls for. -/
def typeAfter (bound : Nat) : String → Parser TypeDef
  | "scalar" => do
    let key ← name
    return ⟨key, ← directives true bound, .scalar⟩
  | "type" => do
    let key ← name
    let supers ← interfaces bound
    let ds ← directives true bound
    return ⟨key, ds, .object supers (← fieldDefs bound)⟩
  | "interface" => do
    let key ← name
    let supers ← interfaces bound
    let ds ← directives true bound
    return ⟨key, ds, .interface supers (← fieldDefs bound)⟩
  | "union" => do
    let key ← name
    let ds ← directives true bound
    return ⟨key, ds, .union (← unionMembers bound)⟩
  | "enum" => do
    let key ← name
    let ds ← directives true bound
    return ⟨key, ds, .enum (← optionalBetween bound .braceL .braceR (enumValueDef bound))⟩
  | _ => do
    let key ← name
    let ds ← directives true bound
    return ⟨key, ds, .input (← optionalBetween bound .braceL .braceR (inputValue bound))⟩

def isTypeWord (word : String) : Bool :=
  ["scalar", "type", "interface", "union", "enum", "input"].contains word

def isBare (d : TypeDef) : Bool :=
  d.directives.isEmpty && match d.body with
    | .scalar => true
    | .object supers fields => supers.isEmpty && fields.isEmpty
    | .interface supers fields => supers.isEmpty && fields.isEmpty
    | .union members => members.isEmpty
    | .enum values => values.isEmpty
    | .input fields => fields.isEmpty

def schemaDef (bound : Nat) : Parser Definition := do
  expectWord "schema"
  let ds ← directives true bound
  return .schema ds (← between bound .braceL .braceR operationType)

def directiveDef (bound : Nat) : Parser Definition := do
  expectWord "directive"
  expectPunct .atSign
  let key ← name
  let args ← argumentDefs bound
  let repeatable ← skipWord "repeatable"
  expectWord "on"
  return .directive ⟨key, args, repeatable, ← delimited bound .pipe site⟩

def extension (bound : Nat) : Parser Definition := do
  let keyword ← peekNext
  match keyword.lexeme with
  | .name "schema" =>
    advance
    advance
    let ds ← directives true bound
    let operations ← optionalBetween bound .braceL .braceR operationType
    if ds.isEmpty && operations.isEmpty then unexpected (← peek)
    return .schemaExtension ds operations
  | .name word =>
    if isTypeWord word then
      advance
      advance
      let d ← typeAfter bound word
      if isBare d then unexpected (← peek)
      return .typeExtension d
    else unexpected keyword
  | _ => unexpected keyword

/-! ### Executable definitions -/

def fragmentName : Parser String := do
  let token ← peek
  match token.lexeme with
  | .name "on" => unexpected token
  | .string "on" => unexpected token
  | .block "on" => unexpected token
  | _ => name

/-- A selection; `inner` reads the selections within it. -/
def selection (bound levels : Nat) (inner : Parser (List Selection)) : Parser Selection := do
  if ← skip .spread then
    if ← skipWord "on" then
      let type ← name
      let ds ← directivesIn false bound levels
      return .inline (some type) ds (← inner)
    else
      match (← peek).lexeme with
      | .name _ =>
        let _ ← fragmentName
        return .spread (← directivesIn false bound levels)
      | _ =>
        let ds ← directivesIn false bound levels
        return .inline none ds (← inner)
  else
    let _ ← name
    if ← skip .colon then let _ ← name
    let args ← argumentsIn false bound levels
    let ds ← directivesIn false bound levels
    if ← atPunct .braceL then return .field args ds (← inner)
    else return .field args ds []

def selectionsIn (bound : Nat) : Nat → Parser (List Selection)
  | 0 => tooDeep
  | levels + 1 =>
    between bound .braceL .braceR (selection bound levels (selectionsIn bound levels))

def selectionSet (bound : Nat) : Parser (List Selection) := selectionsIn bound mostLevels

def variableDef (bound : Nat) : Parser VariableDef := do
  description
  let _ ← variableValue false
  expectPunct .colon
  let type ← typeRef
  let default? ← if ← skip .equals then some <$> value true bound mostLevels else pure none
  return ⟨type, default?, ← directives true bound⟩

def operationDef (bound : Nat) : Parser Definition := do
  let operation ← operationWord
  match (← peek).lexeme with
  | .name _ => advance
  | _ => pure ()
  let declared ← optionalBetween bound .parenL .parenR (variableDef bound)
  let ds ← directives false bound
  return .operation operation declared ds (← selectionSet bound)

def fragmentDef (bound : Nat) : Parser Definition := do
  expectWord "fragment"
  let _ ← fragmentName
  expectWord "on"
  let type ← name
  let ds ← directives false bound
  return .fragment type ds (← selectionSet bound)

/-! ### Documents -/

/-- A definition that may be described, by its keyword. -/
def describedDef? (bound : Nat) (keyword : String) : Option (Parser Definition) :=
  if keyword = "schema" then some (schemaDef bound)
  else if isTypeWord keyword then some do
    advance
    return .type (← typeAfter bound keyword)
  else if keyword = "directive" then some (directiveDef bound)
  else if (Operation.ofWord? keyword).isSome then some (operationDef bound)
  else if keyword = "fragment" then some (fragmentDef bound)
  else none

def definition (bound : Nat) : Parser Definition := do
  let first ← peek
  if first.lexeme == .punct .braceL then
    return .operation .query [] [] (← selectionSet bound)
  let described := isDescription first.lexeme
  let keyword ← if described then peekNext else pure first
  if described && keyword.lexeme == .punct .braceL then fail .describedShorthand first.start
  match keyword.lexeme with
  | .name word =>
    match describedDef? bound word with
    | some rule =>
      description
      rule
    | none =>
      if described then fail .describedOther first.start
      if word = "extend" then extension bound else unexpected keyword
  | _ => unexpected keyword

def definitions (width : Nat) : Nat → Parser Document
  | 0 => return []
  | bound + 1 => do
    let first ← definition width
    if (← peek).lexeme == .eof then return [first]
    return first :: (← definitions width bound)

end Parser

/-- The tokens of a text, of which the first can be read. -/
def readableTokens (text : Text.Wide) : Except SyntaxFault Tokens :=
  match tokensOf text with
  | .broken fault => .error fault
  | tokens => .ok tokens

def Document.parse (text : Text.Wide) : Except SyntaxFault Document := do
  let tokens ← readableTokens text
  let bound := tokens.length + 1
  return (← (Parser.definitions bound bound).run tokens).1

def Value.parse (text : Text.Wide) : Except SyntaxFault Value := do
  let tokens ← readableTokens text
  let wholeValue : Parser Value := do
    let value ← Parser.value false (tokens.length + 1) Parser.mostLevels
    let token ← Parser.peek
    if token.lexeme == .eof then return value
    else Parser.fail (.expected "<EOF>" token.lexeme) token.start
  return (← wholeValue.run tokens).1

end StorefrontSurvey.Schema
