import StorefrontSurvey.Proofs.Outline.Expressions
/-!
Imports and defaults of an outline. Import statements count wherever they stand. Of the statements
that set the default, the last one in document order has its way.
-/
namespace StorefrontSurvey.Outline

open Script (Node)

variable {place : Place} {name : String}

/-! ### Imports -/

theorem entry_imports (place : Place) :
    place.entry.imports =
      (if place.node.kind = "import_statement" then importSource? place.node else none).toList := by
  unfold Place.entry
  split_ifs with imported exported top
  · cases importSource? place.node <;> rfl
  · rw [exportEntry]
    repeat' split
    all_goals rfl
  · rfl
  · rfl

/-! ### Defaults -/

/-- What a statement exports as the default: an expression, or a declaration marked so. -/
def DefaultsTo (n d : Node) : Prop :=
  givenExpression? n = some d ∨
    givenExpression? n = none ∧ n.hasToken "default" = true ∧ n.field? "declaration" = some d

/-- A statement sets the default to a name: to an identifier wherever it stands, to a name that a
declaration binds if it stands at the top. -/
inductive SetsDefault (place : Place) : String → Prop where
  | identifier {value : Node} (statement : place.node.kind = "export_statement")
      (given : givenExpression? place.node = some value) (identifier : value.kind = "identifier") :
      SetsDefault place value.text
  | declaration {d : Node} {b : Binding} (statement : place.node.kind = "export_statement")
      (top : place.top = true) (defaults : DefaultsTo place.node d)
      (last : (bindings d).getLast? = some b) :
      SetsDefault place b.name

/-- A statement sets the default, and nothing hides the expression from which it does so. -/
def SetsOpenly (place : Place) (name : String) : Prop :=
  SetsDefault place name ∧ ¬HidesExpression place.node

theorem sets_identifier_iff {value : Node} (statement : place.node.kind = "export_statement")
    (given : givenExpression? place.node = some value) (identifier : value.kind = "identifier") :
    SetsDefault place name ↔ name = value.text := by
  constructor
  · rintro (⟨_, other, _⟩ | ⟨_, _, other | ⟨none_given, _⟩, last⟩)
    · rw [given] at other
      cases other
      rfl
    · rw [given] at other
      cases other
      rw [identifier_unbound identifier] at last
      cases last
    · rw [given] at none_given
      cases none_given
  · rintro rfl
    exact .identifier statement given identifier

theorem sets_declared_iff (statement : place.node.kind = "export_statement")
    (other : ∀ value, givenExpression? place.node = some value → value.kind ≠ "identifier") :
    SetsDefault place name ↔ place.top = true ∧
      ∃ d, DefaultsTo place.node d ∧ ((bindings d).map (·.name)).getLast? = some name := by
  simp only [List.getLast?_map, Option.map_eq_some_iff]
  constructor
  · rintro (⟨_, given, identifier⟩ | ⟨_, top, defaults, last⟩)
    · exact absurd identifier (other _ given)
    · exact ⟨top, _, defaults, _, last, rfl⟩
  · rintro ⟨top, d, defaults, b, last, rfl⟩
    exact .declaration statement top defaults last

/-- The default that the entry of an export statement leaves is the one that the statement sets. -/
theorem export_default_iff (statement : place.node.kind = "export_statement")
    (open_front : ¬HidesExpression place.node) :
    place.entry.defaults.getLast? = some name ↔ SetsDefault place name := by
  rw [entry_export statement, exportEntry, exported_value_given statement open_front]
  cases given : givenExpression? place.node with
  | some value =>
      by_cases identifier : value.kind = "identifier"
      · rw [sets_identifier_iff statement given identifier]
        simp only [identifier, if_true, Entry.defaults, List.getLast?_singleton,
          Option.some.injEq, eq_comm]
      · have other : ∀ v, givenExpression? place.node = some v → v.kind ≠ "identifier" := by
          intro v same
          rw [given] at same
          cases same
          exact identifier
        rw [sets_declared_iff statement other]
        cases top : place.top <;> simp [identifier, Entry.defaults, DefaultsTo, given]
  | none =>
      rw [sets_declared_iff statement fun v same => by rw [given] at same; cases same]
      cases top : place.top with
      | false => simp [Entry.defaults]
      | true =>
          cases declaration : place.node.field? "declaration" with
          | some d =>
              cases marked : place.node.hasToken "default" <;>
                simp [Entry.defaults, DefaultsTo, given, marked, declaration]
          | none => simp [Entry.defaults, DefaultsTo, given, declaration]

theorem entry_default_none (other : place.node.kind ≠ "export_statement") :
    place.entry.defaults = [] := by
  unfold Place.entry
  split_ifs with imported top
  · cases importSource? place.node <;> rfl
  · rfl
  · rfl

theorem sets_openly_iff :
    place.entry.defaults.getLast? = some name ↔ SetsOpenly place name := by
  have unset : ([] : List String).getLast? ≠ some name := (Option.some_ne_none name).symm
  by_cases statement : place.node.kind = "export_statement"
  · by_cases hidden : HidesExpression place.node
    · have nothing : place.entry.defaults = [] := by
        rw [entry_hidden hidden]
        split <;> rfl
      rw [nothing]
      exact iff_of_false unset fun sets => sets.2 hidden
    · rw [export_default_iff statement hidden, SetsOpenly, and_iff_left hidden]
  · rw [entry_default_none statement]
    refine iff_of_false unset ?_
    rintro ⟨⟨exports, _⟩ | ⟨exports, _⟩, _⟩ <;> exact statement exports

/-! ### The last place that sets a name -/

/-- A place sets a name, and none of those behind it sets any. -/
def SetsLast (Sets : Place → String → Prop) (all : List Place) (place : Place) (name : String) :
    Prop :=
  ∃ earlier later, all = earlier ++ place :: later ∧ Sets place name ∧
    ∀ other ∈ later, ∀ name, ¬Sets other name

section Last

variable {Sets : Place → String → Prop} {given : Place → List String}

theorem given_none_iff (sets : ∀ place name, (given place).getLast? = some name ↔ Sets place name) :
    (given place).getLast? = none ↔ ∀ name, ¬Sets place name := by
  simp only [← sets, Option.eq_none_iff_forall_ne_some, ne_eq]

theorem last_given_iff (sets : ∀ place name, (given place).getLast? = some name ↔ Sets place name)
    (all : List Place) :
    (all.flatMap given).getLast? = some name ↔ ∃ place, SetsLast Sets all place name := by
  rw [List.getLast?_flatMap, List.findSome?_eq_some_iff]
  simp only [sets, given_none_iff sets, SetsLast]
  constructor
  · rintro ⟨later, place, earlier, split, sets_name, none_later⟩
    refine ⟨place, earlier.reverse, later.reverse, ?_, sets_name, ?_⟩
    · rw [← List.reverse_reverse all, split, List.reverse_append, List.reverse_cons,
        List.append_assoc, List.singleton_append]
    · exact fun other member => none_later other (List.mem_reverse.1 member)
  · rintro ⟨place, earlier, later, rfl, sets_name, none_later⟩
    refine ⟨later.reverse, place, earlier.reverse, ?_, sets_name, ?_⟩
    · rw [List.reverse_append, List.reverse_cons, List.append_assoc, List.singleton_append]
    · exact fun other member => none_later other (List.mem_reverse.1 member)

theorem none_given_iff (sets : ∀ place name, (given place).getLast? = some name ↔ Sets place name)
    (all : List Place) :
    (all.flatMap given).getLast? = none ↔ ∀ place ∈ all, ∀ name, ¬Sets place name := by
  rw [List.getLast?_flatMap, List.findSome?_eq_none_iff]
  simp only [List.mem_reverse, given_none_iff sets]

/-- Of places of which one sets a name, one is the last. -/
theorem exists_last {all : List Place} (member : place ∈ all) (sets : Sets place name) :
    ∃ last name, SetsLast Sets all last name := by
  induction all generalizing place name with
  | nil => cases member
  | cons first rest ih =>
      by_cases later : ∃ other ∈ rest, ∃ name, Sets other name
      · obtain ⟨other, among, name, sets⟩ := later
        obtain ⟨last, name, earlier, later, rfl, sets_last⟩ := ih among sets
        exact ⟨last, name, first :: earlier, later, rfl, sets_last⟩
      · have none_later : ∀ other ∈ rest, ∀ name, ¬Sets other name := fun other among name sets =>
          later ⟨other, among, name, sets⟩
        rcases List.mem_cons.1 member with rfl | among
        · exact ⟨place, name, [], rest, rfl, sets, none_later⟩
        · exact absurd sets (none_later place among name)

end Last

/-! ### The outline -/

/-- The imports are those of all import statements that are reached through named children, and the
default is what the last statement sets that does so openly. -/
structure ListsDefault (tree : Node) (o : Outline) : Prop where
  imports : o.imports =
    (tree.namedBelow.filter (·.kind = "import_statement")).filterMap importSource?
  default_iff : ∀ name, o.exports.default? = some name ↔
    ∃ place, SetsLast SetsOpenly (allPlaces tree) place name
  absent_iff : o.exports.default? = none ↔
    ∀ place ∈ allPlaces tree, ∀ name, ¬SetsOpenly place name
  /-- The default is what is set last of all exactly if that is set openly, or the same name is. -/
  whole_iff : (∀ name, o.exports.default? = some name ↔
      ∃ place, SetsLast SetsDefault (allPlaces tree) place name) ↔
    ∀ place name, SetsLast SetsDefault (allPlaces tree) place name →
      HidesExpression place.node → o.exports.default? = some name

theorem tree_imports (tree : Node) :
    (ofTree tree).imports =
      (tree.namedBelow.filter (·.kind = "import_statement")).filterMap importSource? := by
  rw [of_tree_imports, ← all_places_nodes, List.filterMap_filter, List.filterMap_map,
    List.filterMap_eq_flatMap_toList]
  refine List.flatMap_congr fun place _ => ?_
  simp only [entry_imports, Function.comp_apply, decide_eq_true_eq]

/-- The last of all statements that set the default is the last to do so openly, unless it hides its
expression. -/
theorem SetsLast.openly {all : List Place} (last : SetsLast SetsDefault all place name)
    (open_front : ¬HidesExpression place.node) : SetsLast SetsOpenly all place name := by
  obtain ⟨earlier, later, split, sets, none_later⟩ := last
  exact ⟨earlier, later, split, ⟨sets, open_front⟩,
    fun other member name sets => none_later other member name sets.1⟩

theorem imports_and_default_listed (tree : Node) : ListsDefault tree (ofTree tree) := by
  have default_iff (name : String) : (ofTree tree).exports.default? = some name ↔
      ∃ place, SetsLast SetsOpenly (allPlaces tree) place name := by
    rw [of_tree_default]
    exact last_given_iff (fun _ _ => sets_openly_iff) _
  refine ⟨tree_imports tree, default_iff, ?_, fun whole place name last _ => ?_, ?_⟩
  · rw [of_tree_default]
    exact none_given_iff (fun _ _ => sets_openly_iff) _
  · exact (whole name).2 ⟨place, last⟩
  · intro same name
    have default_of_last {place : Place} {name : String}
        (last : SetsLast SetsDefault (allPlaces tree) place name) :
        (ofTree tree).exports.default? = some name := by
      by_cases hidden : HidesExpression place.node
      · exact same place name last hidden
      · exact (default_iff name).2 ⟨place, last.openly hidden⟩
    refine ⟨fun listed => ?_, fun ⟨_, last⟩ => default_of_last last⟩
    obtain ⟨place, _, _, split, sets, _⟩ := (default_iff name).1 listed
    have member : place ∈ allPlaces tree := by
      rw [split]
      exact List.mem_append_right _ List.mem_cons_self
    obtain ⟨last, other, sets_last⟩ := exists_last member sets.1
    rw [default_of_last sets_last] at listed
    cases listed
    exact ⟨last, sets_last⟩

def assignedName : Node := .mk ⟨"identifier", true, false, false, 17, 1, 1, "App", []⟩ []

/-- An assignment with a line ahead of its name that starts as a comment of a markup text does. -/
def markedAssignment : Node :=
  .mk ⟨"export_statement", true, false, false, 0, 0, 0, "export = <!-- c\n App;", []⟩
    [.mk ⟨"export", false, false, false, 0, 0, 0, "export", []⟩ [],
    .mk ⟨"=", false, false, false, 7, 0, 7, "=", []⟩ [],
    .mk ⟨"html_comment", true, false, false, 9, 0, 9, "<!-- c", []⟩ [],
    assignedName, .mk ⟨";", false, false, false, 20, 1, 4, ";", []⟩ []]

def assignmentTree : Node :=
  .mk ⟨"program", true, false, false, 0, 0, 0, "export = <!-- c\n App;\n", []⟩ [markedAssignment]

/-- The one statement of a tree assigns a name, and the outline has no default. -/
theorem marked_assignment_missed :
    SetsLast SetsDefault (allPlaces assignmentTree) ⟨markedAssignment, true⟩ "App" ∧
    (ofTree assignmentTree).exports.default? = none ∧
    ¬∀ name, (ofTree assignmentTree).exports.default? = some name ↔
      ∃ place, SetsLast SetsDefault (allPlaces assignmentTree) place name := by
  have last : SetsLast SetsDefault (allPlaces assignmentTree) ⟨markedAssignment, true⟩ "App" := by
    refine ⟨[], places false markedAssignment.namedChildren, rfl, ?_, ?_⟩
    · exact @SetsDefault.identifier _ assignedName rfl rfl rfl
    · have kinds : ∀ other ∈ places false markedAssignment.namedChildren,
          other.node.kind ≠ "export_statement" := by decide +kernel
      rintro other member name (⟨statement, _⟩ | ⟨statement, _⟩) <;>
        exact kinds other member statement
  have absent : (ofTree assignmentTree).exports.default? = none := by
    rw [of_tree_default]
    decide +kernel
  refine ⟨last, absent, fun whole => ?_⟩
  have listed := (whole "App").2 ⟨_, last⟩
  rw [absent] at listed
  cases listed

end StorefrontSurvey.Outline
