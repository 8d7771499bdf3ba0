import Mathlib.Data.List.Basic
import Mathlib.Data.List.Flatten
import Mathlib.Tactic.SplitIfs
import StorefrontSurvey.Outline.Outline
import StorefrontSurvey.Proofs.Script.Trees
/-!
What the nodes of a tree enter into its outline. The walk comes to every node that is reached
through named children, in document order. Each node makes one entry, and each list of the outline is
what the entries add to it one after another.
-/
namespace StorefrontSurvey.Outline

open Script (Node)

/-! ### The walk -/

namespace Place

/-- Enters the node of a place. -/
def enter (o : Outline) (place : Place) : Outline := addNode place.top place.node o

/-- A place and those below it. -/
def passed (place : Place) : List Place := place :: places false place.node.namedBelow

end Place

theorem passed_places (nodes : List Node) :
    (places false nodes).flatMap Place.passed =
      places false (nodes.flatMap fun n => n :: n.namedBelow) := by
  rw [places, places, List.flatMap_map, List.map_flatMap]
  rfl

theorem place_passed (place : Place) :
    place.passed = place :: (places false place.node.namedChildren).flatMap Place.passed := by
  rw [Place.passed, passed_places, ← Node.named_below_eq]

/-- The walk from a stack enters the places on it, each with those below it. -/
theorem walk_eq (stack : List Place) (o : Outline) :
    walk stack o = (stack.flatMap Place.passed).foldl Place.enter o := by
  fun_induction walk stack o with
  | case1 o => rfl
  | case2 place stack o ih =>
      rw [ih, List.flatMap_append, List.flatMap_cons, place_passed, List.cons_append,
        List.foldl_cons, Place.enter]

/-- The places of a tree below its root, in document order. -/
def allPlaces (tree : Node) : List Place := (places true tree.namedChildren).flatMap Place.passed

theorem of_tree_eq (tree : Node) : ofTree tree = (allPlaces tree).foldl Place.enter .empty :=
  walk_eq _ _

theorem all_places_nodes (tree : Node) : (allPlaces tree).map Place.node = tree.namedBelow := by
  rw [allPlaces, places, List.flatMap_map, List.map_flatMap, Node.named_below_eq]
  refine List.flatMap_congr fun n _ => ?_
  rw [Place.passed, List.map_cons, places_nodes]

/-- What comes only from places at the top comes from the named children of the root. -/
theorem flat_map_places {α : Type} {given : Place → List α} (below : ∀ n, given ⟨n, false⟩ = [])
    (tree : Node) :
    (allPlaces tree).flatMap given = tree.namedChildren.flatMap fun n => given ⟨n, true⟩ := by
  rw [allPlaces, List.flatMap_assoc, places, List.flatMap_map]
  refine List.flatMap_congr fun n _ => ?_
  have deeper : (places false n.namedBelow).flatMap given = [] := by
    rw [places, List.flatMap_map, List.flatMap_eq_nil_iff]
    exact fun m _ => below m
  rw [Place.passed, List.flatMap_cons, deeper, List.append_nil]

/-! ### Declarations -/

/-- A name with the bucket that it belongs to. -/
structure Binding where
  bucket : Bucket
  name : String
  deriving DecidableEq, Repr

/-- What a declaration binds by itself. -/
def ownBindings (d : Node) : List Binding :=
  match bucketOf d.kind with
  | some b => (declaredNames b d).map (⟨b, ·⟩)
  | none => []

/-- The declarations that a node stands for: those of its named children if it is ambient, otherwise
itself. -/
def declarations : Node → List Node
  | .mk h cs => if h.kind = "ambient_declaration" then declarationsAll cs else [.mk h cs]
where
  declarationsAll : List Node → List Node
    | [] => []
    | c :: cs => if c.head.named then declarations c ++ declarationsAll cs else declarationsAll cs

/-- What is bound by the declarations that a node stands for. -/
def bindings (n : Node) : List Binding := (declarations n).flatMap ownBindings

theorem declarations_ambient {n : Node} (ambient : n.kind = "ambient_declaration") :
    declarations n = n.namedChildren.flatMap declarations := by
  cases n with
  | mk head children =>
      replace ambient : head.kind = "ambient_declaration" := ambient
      rw [declarations, if_pos ambient, Node.namedChildren, Node.children]
      induction children with
      | nil => rfl
      | cons c rest ih =>
          rw [declarations.declarationsAll, ih, List.filter_cons]
          split
          · rw [List.flatMap_cons]
          · rfl

theorem declarations_other {n : Node} (other : n.kind ≠ "ambient_declaration") :
    declarations n = [n] := by
  cases n with
  | mk head children =>
      replace other : head.kind ≠ "ambient_declaration" := other
      rw [declarations, if_neg other]

/-- A node of a kind without a bucket binds nothing by itself. -/
theorem bindings_none {n : Node} (other : n.kind ≠ "ambient_declaration")
    (unlisted : bucketOf n.kind = none) : bindings n = [] := by
  rw [bindings, declarations_other other, List.flatMap_singleton, ownBindings, unlisted]

/-- Enters a binding. -/
def bind (how : Exported) (o : Outline) (b : Binding) : Outline := o.declare b.bucket how b.name

theorem add_declaration_ambient (how : Exported) {n : Node} (o : Outline)
    (ambient : n.kind = "ambient_declaration") :
    addDeclaration how n o = n.namedChildren.foldl (fun o c => addDeclaration how c o) o := by
  cases n with
  | mk head children =>
      replace ambient : head.kind = "ambient_declaration" := ambient
      rw [addDeclaration, if_pos ambient, Node.namedChildren, Node.children]
      induction children generalizing o with
      | nil => rfl
      | cons c rest ih =>
          rw [addDeclaration.addParts, ih, List.filter_cons]
          split
          · rw [List.foldl_cons]
          · rfl

theorem add_declaration_other (how : Exported) {n : Node} (o : Outline)
    (other : n.kind ≠ "ambient_declaration") :
    addDeclaration how n o = (ownBindings n).foldl (bind how) o := by
  cases n with
  | mk head children =>
      replace other : head.kind ≠ "ambient_declaration" := other
      rw [addDeclaration, if_neg other, ownBindings, Node.kind, Node.head]
      cases bucketOf head.kind with
      | none => rfl
      | some b => simp only [List.foldl_map, bind]

theorem add_declaration_eq (how : Exported) (n : Node) (o : Outline) :
    addDeclaration how n o = (bindings n).foldl (bind how) o := by
  induction n using Node.induct_children generalizing o with
  | step n ih =>
      by_cases ambient : n.kind = "ambient_declaration"
      · rw [add_declaration_ambient how o ambient, bindings, declarations_ambient ambient,
          List.flatMap_assoc, List.foldl_flatMap]
        refine List.foldl_ext _ _ _ fun o c member => ?_
        exact ih c (List.mem_filter.1 member).1 o
      · rw [add_declaration_other how o ambient, bindings, declarations_other ambient,
          List.flatMap_singleton]

/-! ### Entries -/

/-- What a node enters into an outline. -/
inductive Entry where
  | nothing
  | imported (specifier : String)
  | default (name : String)
  | declared (how : Exported) (bound : List Binding)
  | listed (names : List String)
  deriving DecidableEq, Repr

namespace Entry

def apply (o : Outline) : Entry → Outline
  | nothing => o
  | imported specifier => { o with imports := o.imports ++ [specifier] }
  | default name => o.setDefault name
  | declared how bound => bound.foldl (bind how) o
  | listed names =>
    { o with exports := { o.exports with named := names.foldl addUnique o.exports.named } }

end Entry

/-- The names that the clauses of an export statement list. -/
def clauseNames (n : Node) : List String :=
  (n.namedChildren.filter (·.kind = "export_clause")).flatMap fun c =>
    c.namedChildren.filterMap specifierName?

def exportEntry (top : Bool) (n : Node) : Entry :=
  match exportedValue? n with
  | some v =>
    if v.kind = "identifier" then .default v.text
    else if top then .declared ⟨true, true⟩ (bindings v)
    else .nothing
  | none =>
    if top then
      match n.field? "declaration" with
      | some d => .declared ⟨true, n.hasToken "default"⟩ (bindings d)
      | none => .listed (clauseNames n)
    else .nothing

def Place.entry (place : Place) : Entry :=
  if place.node.kind = "import_statement" then
    match importSource? place.node with
    | some specifier => .imported specifier
    | none => .nothing
  else if place.node.kind = "export_statement" then exportEntry place.top place.node
  else if place.top then .declared notExported (bindings place.node)
  else .nothing

theorem entry_export {place : Place} (statement : place.node.kind = "export_statement") :
    place.entry = exportEntry place.top place.node := by
  have not_import : place.node.kind ≠ "import_statement" := by
    rw [statement]
    decide
  rw [Place.entry, if_neg not_import, if_pos statement]

theorem add_export_eq (top : Bool) (n : Node) (o : Outline) :
    addExport top n o = (exportEntry top n).apply o := by
  unfold addExport exportEntry
  cases exportedValue? n with
  | some v =>
      by_cases identifier : v.kind = "identifier"
      · simp only [identifier, if_true, Entry.apply]
      · cases top with
        | true => simp only [identifier, if_false, if_true, Entry.apply, add_declaration_eq]
        | false => simp only [identifier, Bool.false_eq_true, if_false, Entry.apply]
  | none =>
      cases top with
      | true =>
          cases n.field? "declaration" with
          | some d =>
              simp only [Bool.not_true, Bool.false_eq_true, if_false, if_true, Entry.apply,
                add_declaration_eq]
          | none =>
              simp only [Bool.not_true, Bool.false_eq_true, if_false, if_true, Entry.apply,
                clauseNames]
      | false => simp only [Bool.not_false, if_true, Bool.false_eq_true, if_false, Entry.apply]

/-- Entering a node is making its entry. -/
theorem enter_eq (o : Outline) (place : Place) : place.enter o = place.entry.apply o := by
  unfold Place.enter addNode Place.entry
  split_ifs with imported exported top
  · cases importSource? place.node <;> rfl
  · exact add_export_eq place.top place.node o
  · exact add_declaration_eq notExported place.node o
  · rfl

/-! ### Lists with one of each -/

theorem add_unique_erased (names : List String) (name : String) :
    addUnique names.eraseDups name = (names ++ [name]).eraseDups := by
  rw [List.eraseDups_append, addUnique, List.removeAll]
  by_cases known : name ∈ names
  · simp [known]
  · simp [known, List.eraseDups_cons]

theorem add_all_unique (names : List String) : ∀ front : List String,
    names.foldl addUnique front.eraseDups = (front ++ names).eraseDups := by
  induction names with
  | nil => intro front; rw [List.foldl_nil, List.append_nil]
  | cons name rest ih =>
      intro front
      rw [List.foldl_cons, add_unique_erased, ih, List.append_assoc, List.singleton_append]

theorem nodup_add_unique {names : List String} (once : names.Nodup) (name : String) :
    (addUnique names name).Nodup := by
  rw [addUnique]
  split
  · exact once
  next unknown =>
    rw [List.contains_iff_mem] at unknown
    exact List.nodup_append.2 ⟨once, List.pairwise_singleton _ name, fun a listed b last same => by
      rw [List.mem_singleton] at last
      exact unknown (last ▸ same ▸ listed)⟩

theorem nodup_erased (names : List String) : names.eraseDups.Nodup := by
  have grown (names : List String) : ∀ front : List String,
      front.Nodup → (names.foldl addUnique front).Nodup := by
    induction names with
    | nil => exact fun _ once => once
    | cons name rest ih => exact fun _ once => ih _ (nodup_add_unique once name)
  have erased := grown names [] List.nodup_nil
  rwa [← List.eraseDups_nil, add_all_unique, List.nil_append] at erased

/-! ### Parts of an outline -/

section Parts

variable {α β γ : Type} (part : Outline → γ) {add : γ → β → γ}

/-- Where each step adds something to a part of an outline, a run adds it all in order. -/
theorem foldl_part {step : Outline → α → Outline} {given : α → List β}
    (adds : ∀ o a, part (step o a) = (given a).foldl add (part o)) (items : List α) (o : Outline) :
    part (items.foldl step o) = (items.flatMap given).foldl add (part o) := by
  rw [List.foldl_flatMap]
  exact (List.foldl_hom part fun o a => (adds o a).symm).symm

theorem of_tree_part {given : Entry → List β}
    (adds : ∀ o (entry : Entry), part (entry.apply o) = (given entry).foldl add (part o))
    (tree : Node) :
    part (ofTree tree) =
      ((allPlaces tree).flatMap fun place => given place.entry).foldl add (part .empty) := by
  rw [of_tree_eq]
  refine foldl_part part (fun o place => ?_) _ _
  rw [enter_eq, adds]

end Parts

namespace Symbols

def of (s : Symbols) : Bucket → List String
  | .functions => s.functions
  | .types => s.types
  | .classes => s.classes
  | .consts => s.consts

theorem of_add (s : Symbols) (bucket into : Bucket) (name : String) :
    (s.add into name).of bucket =
      if into = bucket then addUnique (s.of bucket) name else s.of bucket := by
  cases into <;> cases bucket <;> rfl

end Symbols

/-- The names bound in a bucket. -/
def namesIn (bucket : Bucket) (bound : List Binding) : List String :=
  (bound.filter (·.bucket = bucket)).map (·.name)

theorem names_in_flat_map {α : Type} (bucket : Bucket) (items : List α) (bound : α → List Binding) :
    namesIn bucket (items.flatMap bound) = items.flatMap fun a => namesIn bucket (bound a) := by
  simp only [namesIn, List.filter_flatMap, List.map_flatMap]

namespace Entry

def imports : Entry → List String
  | imported specifier => [specifier]
  | _ => []

def defaults : Entry → List String
  | default name => [name]
  | declared how bound => if how.default then bound.map (·.name) else []
  | _ => []

def exported : Entry → List String
  | declared how bound => if how.named then bound.map (·.name) else []
  | listed names => names
  | _ => []

def bound : Entry → List Binding
  | declared _ bound => bound
  | _ => []

theorem apply_imports (o : Outline) (entry : Entry) :
    (entry.apply o).imports = entry.imports.foldl (fun all name => all ++ [name]) o.imports := by
  cases entry with
  | declared how bound =>
      exact (List.foldl_hom Outline.imports fun _ _ => rfl).symm.trans (List.foldl_fixed bound)
  | _ => rfl

theorem apply_default (o : Outline) (entry : Entry) :
    (entry.apply o).exports.default? =
      entry.defaults.foldl (fun _ name => some name) o.exports.default? := by
  cases entry with
  | declared how bound =>
      have adds (o : Outline) (b : Binding) : (bind how o b).exports.default? =
          (if how.default then [b.name] else []).foldl (fun _ name => some name)
            o.exports.default? := by
        rw [bind, declare]
        split <;> rfl
      rw [apply, foldl_part (·.exports.default?) adds, defaults]
      split
      · rw [List.map_eq_flatMap]
      · rw [List.flatMap_eq_nil_iff.2 fun _ _ => rfl]
  | _ => rfl

theorem apply_exported (o : Outline) (entry : Entry) :
    (entry.apply o).exports.named = entry.exported.foldl addUnique o.exports.named := by
  cases entry with
  | declared how bound =>
      have adds (o : Outline) (b : Binding) : (bind how o b).exports.named =
          (if how.named then [b.name] else []).foldl addUnique o.exports.named := by
        show (if how.named then addUnique o.exports.named b.name else o.exports.named) = _
        split <;> rfl
      rw [apply, foldl_part (·.exports.named) adds, exported]
      split
      · rw [List.map_eq_flatMap]
      · rw [List.flatMap_eq_nil_iff.2 fun _ _ => rfl]
  | _ => rfl

theorem apply_symbols (bucket : Bucket) (o : Outline) (entry : Entry) :
    (entry.apply o).symbols.of bucket =
      (namesIn bucket entry.bound).foldl addUnique (o.symbols.of bucket) := by
  cases entry with
  | declared how bound =>
      have adds (o : Outline) (b : Binding) : (bind how o b).symbols.of bucket =
          (namesIn bucket [b]).foldl addUnique (o.symbols.of bucket) := by
        rw [bind, declare, Symbols.of_add, namesIn, List.filter_cons]
        by_cases same : b.bucket = bucket
        · rw [if_pos same, if_pos (decide_eq_true same)]
          rfl
        · rw [if_neg same, if_neg (by exact fun taken => same (of_decide_eq_true taken))]
          rfl
      rw [apply, foldl_part (·.symbols.of bucket) adds, ← names_in_flat_map,
        List.flatMap_singleton', Entry.bound]
  | _ => rfl

end Entry

theorem foldl_last {α : Type} (items : List α) : ∀ first : Option α,
    items.foldl (fun _ a => some a) first = items.getLast?.or first := by
  induction items with
  | nil => exact fun _ => rfl
  | cons a rest ih =>
      intro first
      rw [List.foldl_cons, ih, List.getLast?_cons]
      cases rest.getLast? <;> rfl

theorem of_tree_imports (tree : Node) :
    (ofTree tree).imports = (allPlaces tree).flatMap fun place => place.entry.imports := by
  rw [of_tree_part Outline.imports Entry.apply_imports, List.foldl_append_eq_append,
    ← List.flatMap_def, List.flatMap_singleton']
  rfl

theorem of_tree_default (tree : Node) :
    (ofTree tree).exports.default? =
      ((allPlaces tree).flatMap fun place => place.entry.defaults).getLast? := by
  rw [of_tree_part (·.exports.default?) Entry.apply_default]
  exact (foldl_last _ none).trans (Option.or_none ..)

theorem of_tree_exported (tree : Node) :
    (ofTree tree).exports.named =
      ((allPlaces tree).flatMap fun place => place.entry.exported).eraseDups := by
  rw [of_tree_part (·.exports.named) Entry.apply_exported]
  exact add_all_unique _ []

theorem of_tree_symbols (bucket : Bucket) (tree : Node) :
    (ofTree tree).symbols.of bucket =
      ((allPlaces tree).flatMap fun place => namesIn bucket place.entry.bound).eraseDups := by
  rw [of_tree_part (·.symbols.of bucket) (Entry.apply_symbols bucket)]
  cases bucket <;> exact add_all_unique _ []

end StorefrontSurvey.Outline
