import StorefrontSurvey.Proofs.Outline.Expressions
/-!
The names that an outline lists. Only what stands at the top of a tree counts: its declarations,
what it exports, and the parts of ambient declarations there.
-/
namespace StorefrontSurvey.Outline

open Script (Node)

/-- The expression or the declaration that a statement exports. -/
def exportedPart? (n : Node) : Option Node := (givenExpression? n).or (n.field? "declaration")

/-- What a node at the top binds: an export statement what its part does, any other node what it
declares. -/
def standing (n : Node) : List Binding :=
  if n.kind = "export_statement" then (exportedPart? n).toList.flatMap bindings else bindings n

/-- The names that a node at the top exports: those that its part binds, or those of its clauses. -/
def exportedNames (n : Node) : List String :=
  if n.kind = "export_statement" then
    match exportedPart? n with
    | some d => (bindings d).map (·.name)
    | none => clauseNames n
  else []

variable {n : Node}

/-- A node below the top enters a specifier or a default at most. -/
theorem entry_below (n : Node) :
    (Place.entry ⟨n, false⟩).bound = [] ∧ (Place.entry ⟨n, false⟩).exported = [] := by
  unfold Place.entry
  split_ifs with imported exported top
  · cases importSource? n <;> exact ⟨rfl, rfl⟩
  · rw [exportEntry]
    cases exportedValue? n with
    | some value =>
        by_cases identifier : value.kind = "identifier" <;>
          simp [identifier, Entry.bound, Entry.exported]
    | none => exact ⟨rfl, rfl⟩
  · cases top
  · exact ⟨rfl, rfl⟩

theorem entry_export_top (statement : n.kind = "export_statement")
    (open_front : ¬HidesExpression n) :
    (Place.entry ⟨n, true⟩).bound = standing n ∧
      (Place.entry ⟨n, true⟩).exported = exportedNames n := by
  rw [entry_export statement, exportEntry, exported_value_given statement open_front, standing,
    if_pos statement, exportedNames, if_pos statement, exportedPart?]
  cases givenExpression? n with
  | some value =>
      by_cases identifier : value.kind = "identifier"
      · simp [identifier, identifier_unbound identifier, Entry.bound, Entry.exported]
      · simp [identifier, Entry.bound, Entry.exported]
  | none => cases n.field? "declaration" <;> simp [Entry.bound, Entry.exported]

/-- A node at the top enters what it binds and exports. An import statement binds nothing that is
listed. -/
theorem entry_top (open_front : ¬HidesExpression n) :
    (Place.entry ⟨n, true⟩).bound = standing n ∧
      (Place.entry ⟨n, true⟩).exported = exportedNames n := by
  by_cases statement : n.kind = "export_statement"
  · exact entry_export_top statement open_front
  · rw [standing, if_neg statement, exportedNames, if_neg statement]
    unfold Place.entry
    split_ifs with imported top
    · have unbound : bindings n = [] := by
        replace imported : n.kind = "import_statement" := imported
        refine bindings_none ?_ ?_ <;> rw [imported] <;> decide
      rw [unbound]
      cases importSource? n <;> exact ⟨rfl, rfl⟩
    · exact ⟨rfl, rfl⟩
    · exact absurd rfl top

/-- What the nodes at the top give, those aside that hide what they export. -/
theorem flat_map_open {α : Type} (given : Entry → List α) {names : Node → List α}
    (below : ∀ n, given (Place.entry ⟨n, false⟩) = [])
    (nothing : given (.declared ⟨true, true⟩ []) = [])
    (top : ∀ n, ¬HidesExpression n → given (Place.entry ⟨n, true⟩) = names n) (tree : Node) :
    (allPlaces tree).flatMap (fun place => given place.entry) =
      (tree.namedChildren.filter (¬HidesExpression ·)).flatMap names := by
  rw [flat_map_places below]
  induction tree.namedChildren with
  | nil => rfl
  | cons n rest ih =>
      rw [List.flatMap_cons, ih, List.filter_cons]
      by_cases hidden : HidesExpression n
      · have entry : Place.entry ⟨n, true⟩ = .declared ⟨true, true⟩ [] := entry_hidden hidden
        rw [entry, nothing, if_neg (by simpa using hidden), List.nil_append]
      · rw [top n hidden, if_pos (by simpa using hidden), List.flatMap_cons]

/-- An outline lists each name once that some nodes bind or export, in the order of their first
occurrences. -/
structure ListsNames (top : List Node) (o : Outline) : Prop where
  symbols : ∀ bucket, o.symbols.of bucket = (namesIn bucket (top.flatMap standing)).eraseDups
  named : o.exports.named = (top.flatMap exportedNames).eraseDups
  symbols_once : ∀ bucket, (o.symbols.of bucket).Nodup
  named_once : o.exports.named.Nodup

/-- The names are those of the nodes at the top, but for export statements that hide their
expression. -/
theorem top_names_listed (tree : Node) :
    ListsNames (tree.namedChildren.filter (¬HidesExpression ·)) (ofTree tree) ∧
    ((∀ n ∈ tree.namedChildren, ¬HidesExpression n) →
      ListsNames tree.namedChildren (ofTree tree)) := by
  have listed : ListsNames (tree.namedChildren.filter (¬HidesExpression ·)) (ofTree tree) := by
    have symbols (bucket : Bucket) : (ofTree tree).symbols.of bucket = (namesIn bucket
        ((tree.namedChildren.filter (¬HidesExpression ·)).flatMap standing)).eraseDups := by
      rw [of_tree_symbols, names_in_flat_map]
      refine congrArg List.eraseDups ?_
      refine flat_map_open (fun entry => namesIn bucket entry.bound) (fun n => ?_) rfl
        (fun n open_front => ?_) tree
      · rw [(entry_below n).1]
        rfl
      · rw [(entry_top open_front).1]
    have named : (ofTree tree).exports.named =
        ((tree.namedChildren.filter (¬HidesExpression ·)).flatMap exportedNames).eraseDups := by
      rw [of_tree_exported]
      refine congrArg List.eraseDups ?_
      exact flat_map_open Entry.exported (fun n => (entry_below n).2) rfl
        (fun n open_front => (entry_top open_front).2) tree
    refine ⟨symbols, named, fun bucket => ?_, ?_⟩
    · rw [symbols]
      exact nodup_erased _
    · rw [named]
      exact nodup_erased _
  refine ⟨listed, fun open_fronts => ?_⟩
  rwa [List.filter_eq_self.2 fun n member => decide_eq_true (open_fronts n member)] at listed

/-- An assignment of a class behind a line that starts as a comment of a markup text does. -/
def markedClassTree : Node :=
  .mk ⟨"program", true, false, false, 0, 0, 0, "export = <!-- c\n class A \x7b\x7d;\n", []⟩
    [.mk ⟨"export_statement", true, false, false, 0, 0, 0, "export = <!-- c\n class A \x7b\x7d;",
        []⟩
      [.mk ⟨"export", false, false, false, 0, 0, 0, "export", []⟩ [],
      .mk ⟨"=", false, false, false, 7, 0, 7, "=", []⟩ [],
      .mk ⟨"html_comment", true, false, false, 9, 0, 9, "<!-- c", []⟩ [],
      .mk ⟨"class", true, false, false, 17, 1, 1, "class A \x7b\x7d", []⟩
        [.mk ⟨"class", false, false, false, 17, 1, 1, "class", []⟩ [],
        .mk ⟨"type_identifier", true, false, false, 23, 1, 7, "A", ["name"]⟩ [],
        .mk ⟨"class_body", true, false, false, 25, 1, 9, "\x7b\x7d", ["body"]⟩
          [.mk ⟨"\x7b", false, false, false, 25, 1, 9, "\x7b", []⟩ [],
          .mk ⟨"\x7d", false, false, false, 26, 1, 10, "\x7d", []⟩ []]],
      .mk ⟨";", false, false, false, 27, 1, 11, ";", []⟩ []]]

/-- The one statement of a tree exports a class, which the outline lists nowhere. -/
theorem marked_class_missed :
    markedClassTree.namedChildren.flatMap standing = [⟨.classes, "A"⟩] ∧
    markedClassTree.namedChildren.flatMap exportedNames = ["A"] ∧
    ofTree markedClassTree = .empty ∧
    ¬ListsNames markedClassTree.namedChildren (ofTree markedClassTree) := by
  have bound : markedClassTree.namedChildren.flatMap standing = [⟨.classes, "A"⟩] := by
    decide +kernel
  have nothing : ofTree markedClassTree = .empty := by
    have entries : (allPlaces markedClassTree).map Place.entry =
        [.declared ⟨true, true⟩ [], .nothing, .nothing, .nothing, .nothing] := by decide +kernel
    rw [of_tree_eq, funext₂ enter_eq, ← List.foldl_map, entries]
    rfl
  refine ⟨bound, by decide +kernel, nothing, fun whole => ?_⟩
  have listed := whole.symbols .classes
  rw [bound, nothing] at listed
  exact absurd listed (by decide +kernel)

end StorefrontSurvey.Outline
