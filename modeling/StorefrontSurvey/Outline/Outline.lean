import StorefrontSurvey.Report
import StorefrontSurvey.Script.Fault
import StorefrontSurvey.Script.Suffix
/-!
Outlines of scripts: what a file imports, exports and declares at its top.
-/
namespace StorefrontSurvey

structure Outline.Exports where
  default? : Option String
  named : List String
  deriving DecidableEq, Repr, Inhabited

structure Outline.Symbols where
  functions : List String
  types : List String
  classes : List String
  consts : List String
  deriving DecidableEq, Repr, Inhabited

structure Outline where
  imports : List String
  exports : Outline.Exports
  symbols : Outline.Symbols
  deriving DecidableEq, Repr, Inhabited

namespace Outline

open Script (Node)

def empty : Outline := ⟨[], ⟨none, []⟩, ⟨[], [], [], []⟩⟩

/-- Where the name of a declaration is listed. -/
inductive Bucket where
  | functions
  | types
  | classes
  | consts
  deriving DecidableEq, Repr

def bucketOf (kind : String) : Option Bucket :=
  if ["function_declaration", "generator_function_declaration", "function_signature",
      "function_expression", "function", "generator_function"].contains kind then some .functions
  else if ["class_declaration", "abstract_class_declaration", "class"].contains kind then
    some .classes
  else if ["type_alias_declaration", "interface_declaration"].contains kind then some .types
  else if ["lexical_declaration", "variable_declaration"].contains kind then some .consts
  else none

def addUnique (names : List String) (name : String) : List String :=
  if names.contains name then names else names ++ [name]

def Symbols.add (s : Symbols) (bucket : Bucket) (name : String) : Symbols :=
  match bucket with
  | .functions => { s with functions := addUnique s.functions name }
  | .types => { s with types := addUnique s.types name }
  | .classes => { s with classes := addUnique s.classes name }
  | .consts => { s with consts := addUnique s.consts name }

/-- The name that a declarator binds; a destructuring binds no single name. -/
def declaratorName? (n : Node) : Option String :=
  if n.kind = "variable_declarator" then
    match n.field? "name" with
    | some name => if name.kind = "identifier" then some name.text else none
    | none => none
  else none

/-- The names that a declaration gives to a bucket. -/
def declaredNames (bucket : Bucket) (n : Node) : List String :=
  match bucket with
  | .consts => n.namedChildren.filterMap declaratorName?
  | _ => ((n.field? "name").map (·.text)).toList.filter (· ≠ "")

structure Exported where
  named : Bool
  default : Bool
  deriving DecidableEq, Repr

def notExported : Exported := ⟨false, false⟩

/-- A name entered under a bucket, and under the exports if it is exported. -/
def declare (o : Outline) (bucket : Bucket) (how : Exported) (name : String) : Outline :=
  { o with
    symbols := o.symbols.add bucket name
    exports :=
      { default? := if how.default then some name else o.exports.default?
        named := if how.named then addUnique o.exports.named name else o.exports.named } }

/-- A declaration entered into an outline; an ambient declaration stands for its parts. -/
def addDeclaration (how : Exported) : Node → Outline → Outline
  | .mk h cs, o =>
    if h.kind = "ambient_declaration" then addParts how cs o
    else match bucketOf h.kind with
      | some b => (declaredNames b (.mk h cs)).foldl (fun o name => o.declare b how name) o
      | none => o
where
  addParts (how : Exported) : List Node → Outline → Outline
    | [], o => o
    | c :: cs, o =>
      addParts how cs (if c.head.named then addDeclaration how c o else o)

def specifierName? (n : Node) : Option String :=
  if n.kind = "export_specifier" then
    ((n.field? "alias").or (n.field? "name")).map fun e =>
      if e.kind = "string" then e.unquoted else e.text
  else none

def assignedValue? (n : Node) : Option Node :=
  if n.hasToken "=" then n.namedChildren.find? (·.kind ≠ "comment") else none

/-- The value that an export statement exports by itself. -/
def exportedValue? (n : Node) : Option Node :=
  if n.hasToken "default" then n.field? "value" else assignedValue? n

def setDefault (o : Outline) (name : String) : Outline :=
  { o with exports := { o.exports with default? := some name } }

/-- An export statement entered into an outline. Below the top only a name exported by itself
counts. -/
def addExport (top : Bool) (n : Node) (o : Outline) : Outline :=
  match exportedValue? n with
  | some v =>
    if v.kind = "identifier" then setDefault o v.text
    else if top then addDeclaration ⟨true, true⟩ v o
    else o
  | none =>
    if !top then o
    else match n.field? "declaration" with
      | some d => addDeclaration ⟨true, n.hasToken "default"⟩ d o
      | none =>
        let names := (n.namedChildren.filter (·.kind = "export_clause")).flatMap fun c =>
          c.namedChildren.filterMap specifierName?
        { o with exports := { o.exports with named := names.foldl addUnique o.exports.named } }

/-- The specifier that an import statement names. -/
def importSource? (n : Node) : Option String :=
  match n.field? "source" with
  | some s => if s.kind = "string" then some s.unquoted else none
  | none => none

def addNode (top : Bool) (n : Node) (o : Outline) : Outline :=
  if n.kind = "import_statement" then
    match importSource? n with
    | some s => { o with imports := o.imports ++ [s] }
    | none => o
  else if n.kind = "export_statement" then addExport top n o
  else if top then addDeclaration notExported n o
  else o

/-- A node of a tree, and whether it stands at the top. -/
structure Place where
  node : Node
  top : Bool
  deriving Inhabited

/-- Nodes that all stand at the top, or all below it. -/
def places (top : Bool) (nodes : List Node) : List Place := nodes.map (⟨·, top⟩)

theorem places_nodes (top : Bool) (nodes : List Node) :
    (places top nodes).map Place.node = nodes := by
  rw [places, List.map_map]
  exact List.map_id nodes

/-- Enters the nodes of a stack, one after another. The named children of a node go on top of the
stack, the first one uppermost; they do not stand at the top of the tree. -/
def walk : List Place → Outline → Outline
  | [], o => o
  | place :: stack, o =>
    walk (places false place.node.namedChildren ++ stack) (addNode place.top place.node o)
termination_by stack => (Node.preorder.preorderAll (stack.map Place.node)).length
decreasing_by
  rw [List.map_append, places_nodes]
  exact Node.preorder_all_lt _ List.filter_sublist

def ofTree (tree : Node) : Outline := walk (places true tree.namedChildren) .empty

/-- The outline of a text, and what is wrong with the text. -/
def ofSource (source file : String) : Outline × Option String :=
  let tree := Script.parse (Script.dialectOf file) source
  (ofTree tree, tree.syntaxError?)

end Outline

end StorefrontSurvey
