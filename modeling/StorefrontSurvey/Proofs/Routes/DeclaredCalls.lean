import StorefrontSurvey.Proofs.Routes.Provenance
import StorefrontSurvey.Proofs.Script.Trees
/-!
Which calls of a sound tree are listed as routes: those of the plain name `route`, at any depth, whose
first two arguments are texts that are not empty. Each is listed once, by the raw texts, and no two
start at one byte, so the order of the list is that of the calls in the text, in whatever order they
were found. Comments may stand anywhere between the arguments, with one exception: the reading takes
a comment of a markup text for an argument.
-/
namespace StorefrontSurvey.Routes

open Script (Node)

/-- A node calls the plain name `route` with a list of arguments. -/
structure CallsRoute (n args : Node) : Prop where
  kind : n.kind = "call_expression"
  named : ∃ name, n.field? "function" = some name ∧ name.kind = "identifier" ∧ name.text = "route"
  given : n.field? "arguments" = some args
  plain : args.kind = "arguments"

/-- The first two arguments of a list. -/
def firstTwo (args : Node) : List Node := (args.namedChildren.filter (¬·.IsComment)).take 2

/-- What is read as the first two arguments of a list. -/
def leading (args : Node) : List Node := (args.namedChildren.filter (·.kind ≠ "comment")).take 2

/-- Two arguments are texts that are not empty, and make a route. -/
def MakeRoute (arguments : List Node) (route : Route) : Prop :=
  ∃ pattern file, arguments = [pattern, file] ∧ (pattern.kind = "string" ∧ file.kind = "string") ∧
    (pattern.unquoted ≠ "" ∧ file.unquoted ≠ "") ∧ route = .of pattern.unquoted file.unquoted

/-- A call declares a route by its first two arguments. -/
def Declares (n : Node) (route : Route) : Prop :=
  ∃ args, CallsRoute n args ∧ MakeRoute (firstTwo args) route

/-- A comment of a markup text stands ahead of one of a call's first two arguments. -/
def HidesArgument (n : Node) : Prop :=
  ∃ args, CallsRoute n args ∧ ∃ m ∈ leading args, m.kind = "html_comment"

variable {n m args others : Node} {route : Route}

theorem route_arguments_iff : routeArguments? n = some args ↔ CallsRoute n args := by
  constructor
  · intro found
    unfold routeArguments? at found
    split_ifs at found with call
    split at found
    case h_2 => cases found
    case h_1 f a named given =>
      split_ifs at found with route
      obtain rfl := Option.some.inj found
      exact ⟨call, ⟨f, named, route.1, route.2.1⟩, given, route.2.2⟩
  · rintro ⟨call, ⟨name, named, identifier, text⟩, given, plain⟩
    simp only [routeArguments?, call, named, given, identifier, text, plain, and_self, if_true]

theorem calls_route_unique (one : CallsRoute n args) (other : CallsRoute n others) :
    args = others :=
  Option.some.inj (one.given.symm.trans other.given)

theorem route_of_called (calls : CallsRoute n args) :
    routeOfCall? n = some route ↔ MakeRoute (leading args) route := by
  unfold routeOfCall? leading MakeRoute
  simp only [route_arguments_iff.2 calls]
  generalize args.namedChildren.filter (·.kind ≠ "comment") = arguments
  match arguments with
  | [] => simp
  | [_] => simp
  | p :: f :: rest =>
      constructor
      · intro made
        dsimp only at made
        split_ifs at made with texts
        exact ⟨p, f, rfl, ⟨texts.1, texts.2.1⟩, texts.2.2, (Option.some.inj made).symm⟩
      · rintro ⟨pattern, file, two, kinds, texts, rfl⟩
        obtain ⟨rfl, rfl, -⟩ := two
        exact if_pos ⟨kinds.1, kinds.2, texts⟩

theorem route_of_call_iff_leading :
    routeOfCall? n = some route ↔ ∃ args, CallsRoute n args ∧ MakeRoute (leading args) route := by
  constructor
  · intro read
    cases found : routeArguments? n with
    | none =>
        rw [routeOfCall?, found] at read
        cases read
    | some args =>
        have calls := route_arguments_iff.1 found
        exact ⟨args, calls, (route_of_called calls).1 read⟩
  · rintro ⟨args, calls, made⟩
    exact (route_of_called calls).2 made

theorem make_route_unhidden (made : MakeRoute (leading args) route) :
    ∀ m ∈ leading args, m.kind ≠ "html_comment" := by
  obtain ⟨pattern, file, two, ⟨pattern_text, file_text⟩, _⟩ := made
  intro m member
  rw [two, List.mem_cons, List.mem_singleton] at member
  rcases member with rfl | rfl
  · rw [pattern_text]
    decide
  · rw [file_text]
    decide

/-- A call is read as it declares, unless a comment hides one of its arguments. -/
theorem route_of_call_iff :
    routeOfCall? n = some route ↔ Declares n route ∧ ¬HidesArgument n := by
  rw [route_of_call_iff_leading]
  constructor
  · rintro ⟨args, calls, made⟩
    have free := make_route_unhidden made
    refine ⟨⟨args, calls, ?_⟩, ?_⟩
    · rwa [firstTwo, Node.leading_eq free]
    · rintro ⟨others, other, m, member, markup⟩
      exact free m (calls_route_unique calls other ▸ member) markup
  · rintro ⟨⟨args, calls, made⟩, open_arguments⟩
    have free : ∀ m ∈ leading args, m.kind ≠ "html_comment" := fun m member markup =>
      open_arguments ⟨args, calls, m, member, markup⟩
    refine ⟨args, calls, ?_⟩
    rwa [firstTwo, Node.leading_eq free] at made

/-- Only the kinds and the texts of the first two arguments count, not what follows them, and not
the comments between them. -/
theorem route_of_call_same (calls : CallsRoute n args) (others_called : CallsRoute m others)
    (same : (leading args).map (fun a => (a.kind, a.text)) =
      (leading others).map fun a => (a.kind, a.text)) :
    routeOfCall? n = routeOfCall? m := by
  have same_route {n m args others : Node} (calls : CallsRoute n args)
      (others_called : CallsRoute m others)
      (same : (leading args).map (fun a => (a.kind, a.text)) =
        (leading others).map fun a => (a.kind, a.text)) {route : Route}
      (read : routeOfCall? n = some route) : routeOfCall? m = some route := by
    obtain ⟨args', calls', pattern, file, two, kinds, texts, rfl⟩ := route_of_call_iff_leading.1 read
    obtain rfl := calls_route_unique calls calls'
    rw [two] at same
    obtain ⟨pattern', rest, two', first, tail⟩ := List.map_eq_cons_iff.1 same.symm
    obtain ⟨file', rest', rfl, second, tail⟩ := List.map_eq_cons_iff.1 tail
    obtain rfl := List.map_eq_nil_iff.1 tail
    obtain ⟨pattern_kind, pattern_text⟩ := Prod.mk.inj first
    obtain ⟨file_kind, file_text⟩ := Prod.mk.inj second
    have pattern_same : pattern'.unquoted = pattern.unquoted := by
      rw [Node.unquoted, pattern_text, Node.unquoted]
    have file_same : file'.unquoted = file.unquoted := by
      rw [Node.unquoted, file_text, Node.unquoted]
    refine route_of_call_iff_leading.2 ⟨others, others_called, pattern', file', two', ?_, ?_, ?_⟩
    · rwa [pattern_kind, file_kind]
    · rwa [pattern_same, file_same]
    · rw [pattern_same, file_same]
  cases read : routeOfCall? n with
  | some route => exact (same_route calls others_called same read).symm
  | none =>
      cases read' : routeOfCall? m with
      | none => rfl
      | some route =>
          rw [same_route others_called calls same.symm read'] at read
          cases read

/-! ### Lists of routes -/

/-- Routes are listed for nodes, one for each node that has one, in the order of the nodes. -/
inductive Listed (HasRoute : Node → Route → Prop) : List Node → List Route → Prop where
  | nil : Listed HasRoute [] []
  | entry {n : Node} {route : Route} {nodes : List Node} {routes : List Route} :
      HasRoute n route → Listed HasRoute nodes routes →
      Listed HasRoute (n :: nodes) (route :: routes)
  | other {n : Node} {nodes : List Node} {routes : List Route} :
      (∀ route, ¬HasRoute n route) → Listed HasRoute nodes routes →
      Listed HasRoute (n :: nodes) routes

namespace Listed

variable {HasRoute MayHave : Node → Route → Prop} {nodes : List Node} {routes longer : List Route}

theorem of_filter_map {route? : Node → Option Route}
    (exact_route : ∀ n route, route? n = some route ↔ HasRoute n route) (nodes : List Node) :
    Listed HasRoute nodes (nodes.filterMap route?) := by
  induction nodes with
  | nil => exact .nil
  | cons n rest ih =>
      cases found : route? n with
      | some route =>
          rw [List.filterMap_cons_some found]
          exact .entry ((exact_route n route).1 found) ih
      | none =>
          rw [List.filterMap_cons_none found]
          refine .other (fun route has => ?_) ih
          rw [(exact_route n route).2 has] at found
          cases found

theorem of_same (listed : Listed HasRoute nodes routes)
    (same : ∀ n ∈ nodes, ∀ route, HasRoute n route ↔ MayHave n route) :
    Listed MayHave nodes routes := by
  induction listed with
  | nil => exact .nil
  | entry has _ ih =>
      exact .entry ((same _ List.mem_cons_self _).1 has)
        (ih fun n member => same n (List.mem_cons_of_mem _ member))
  | other none _ ih =>
      exact .other (fun route may => none route ((same _ List.mem_cons_self _).2 may))
        (ih fun n member => same n (List.mem_cons_of_mem _ member))

/-- Where more nodes have routes, the list is no shorter. -/
theorem length_le (listed : Listed HasRoute nodes routes) (more : Listed MayHave nodes longer)
    (weaker : ∀ n route, HasRoute n route → MayHave n route) : routes.length ≤ longer.length := by
  induction listed generalizing longer with
  | nil => exact Nat.zero_le _
  | entry has _ ih =>
      cases more with
      | entry _ more => exact Nat.succ_le_succ (ih more)
      | other none _ => exact absurd (weaker _ _ has) (none _)
  | other _ _ ih =>
      cases more with
      | entry _ more => exact Nat.le_succ_of_le (ih more)
      | other _ more => exact ih more

/-- A list that fits a weaker reading as well leaves no node out. -/
theorem none_left (listed : Listed HasRoute nodes routes) (more : Listed MayHave nodes routes)
    (weaker : ∀ n route, HasRoute n route → MayHave n route) :
    ∀ n ∈ nodes, (∃ route, MayHave n route) → ∃ route, HasRoute n route := by
  induction listed with
  | nil => exact fun n member => absurd member List.not_mem_nil
  | @entry first route rest routes has _ ih =>
      intro n member may
      cases more with
      | other none _ => exact absurd (weaker _ _ has) (none _)
      | entry _ more =>
          rcases List.mem_cons.1 member with rfl | later
          · exact ⟨route, has⟩
          · exact ih more n later may
  | @other first rest routes none listed ih =>
      intro n member may
      cases more with
      | entry _ more =>
          have shorter := listed.length_le more weaker
          rw [List.length_cons] at shorter
          omega
      | other never more =>
          rcases List.mem_cons.1 member with rfl | later
          · exact absurd may (not_exists.2 never)
          · exact ih more n later may

end Listed

/-! ### Order -/

/-- A call expression begins with what it calls, and a plain name that is called has no parts. -/
def BeginsWithCallee (n : Node) : Prop :=
  ∃ f ∈ n.children.head?, f.head.fields.contains "function" = true ∧
    (f.kind = "identifier" → f.children.isEmpty = true)

instance (n : Node) : Decidable (BeginsWithCallee n) :=
  inferInstanceAs (Decidable (∃ f ∈ n.children.head?, f.head.fields.contains "function" = true ∧
    (f.kind = "identifier" → f.children.isEmpty = true)))

def CalleesFirst (tree : Node) : Prop :=
  ∀ n ∈ tree.preorder, n.kind = "call_expression" → BeginsWithCallee n

instance (tree : Node) : Decidable (CalleesFirst tree) :=
  inferInstanceAs (Decidable (∀ n ∈ tree.preorder, n.kind = "call_expression" → BeginsWithCallee n))

theorem callee_in_front (begins : BeginsWithCallee n) {f : Node}
    (named : n.field? "function" = some f) :
    (∃ rest, n.children = f :: rest) ∧ (f.kind = "identifier" → f.children = []) := by
  obtain ⟨front, in_front, held, bare⟩ := begins
  obtain ⟨rest, children⟩ := List.head?_eq_some_iff.1 (Option.mem_def.1 in_front)
  rw [Node.field?, children, List.find?_cons, held] at named
  obtain rfl := Option.some.inj named
  exact ⟨⟨rest, children⟩, fun identifier => List.isEmpty_iff.1 (bare identifier)⟩

theorem name_stop {f : Node} (text : f.text = "route") : f.stopByte = f.head.startByte + 5 := by
  have width : "route".utf8ByteSize = 5 := by decide
  rw [Node.stopByte, text, width]

/-- Of two calls of the name the one that comes before the other starts before it. -/
theorem starts_before (laid : n.IsLaidOut) (begins : BeginsWithCallee n)
    (calls : CallsRoute n args) (others_called : CallsRoute m others) (before : n.ComesBefore m) :
    n.head.startByte < m.head.startByte := by
  obtain ⟨f, named, identifier, text⟩ := calls.named
  obtain ⟨⟨rest, children⟩, bare⟩ := callee_in_front begins named
  have child : f ∈ n.children := children ▸ List.mem_cons_self
  have order : n.HoldsInOrder := laid n (Node.self_mem_preorder n)
  have name_start := order.starts f child
  have name_end := name_stop text
  rcases before with inside | apart
  · rw [children, Node.preorder.preorderAll, Node.preorder_eq, bare identifier,
      Node.preorder.preorderAll, Node.preorder_all_eq, List.cons_append, List.mem_cons,
      List.nil_append, List.mem_flatMap] at inside
    rcases inside with rfl | ⟨c, later, inside⟩
    · have kind := others_called.kind
      rw [identifier] at kind
      exact absurd kind (by decide)
    · have behind := order.ordered
      rw [children, List.pairwise_cons] at behind
      have gap := behind.1 c later
      have within := ((laid.child (children ▸ List.mem_cons_of_mem _ later)).within m inside).1
      omega
  · have name_within := order.stops f child
    omega

/-- The calls of the name in a tree start one after another. -/
theorem calls_in_order {tree : Node} (laid : tree.IsLaidOut) (first : CalleesFirst tree) :
    tree.preorder.Pairwise fun a b => (∃ args, CallsRoute a args) → (∃ args, CallsRoute b args) →
      a.head.startByte < b.head.startByte := by
  refine laid.comes_before.imp_of_mem fun {a b} member _ before => ?_
  rintro ⟨args, calls⟩ ⟨others, others_called⟩
  refine starts_before (fun c inside => laid c ?_) (first a member calls.kind) calls others_called
    before
  exact Node.mem_preorder_trans member inside

theorem declared_at_iff {start : Nat} :
    declaredAt? n = some (start, route) ↔
      routeOfCall? n = some route ∧ n.head.startByte = start := by
  simp only [declaredAt?, Option.map_eq_some_iff, Prod.mk.injEq]
  constructor
  · rintro ⟨found, read, start, rfl⟩
    exact ⟨read, start⟩
  · rintro ⟨read, start⟩
    exact ⟨route, read, start, rfl⟩

/-- The routes of calls that were found in some order, sorted by the calls' first bytes. -/
def sortedRoutes (found : List Node) : List Route :=
  ((found.filterMap declaredAt?).mergeSort fun a b => a.1 ≤ b.1).map (·.2)

theorem declared_in_order {tree : Node} (laid : tree.IsLaidOut) (first : CalleesFirst tree) :
    (tree.preorder.filterMap declaredAt?).Pairwise fun a b => a.1 < b.1 := by
  rw [List.pairwise_filterMap]
  refine (calls_in_order laid first).imp fun {a b} ordered => ?_
  rintro ⟨start, route⟩ declared ⟨other_start, other_route⟩ other_declared
  obtain ⟨read, rfl⟩ := declared_at_iff.1 declared
  obtain ⟨other_read, rfl⟩ := declared_at_iff.1 other_declared
  obtain ⟨args, calls, _⟩ := route_of_call_iff_leading.1 read
  obtain ⟨others, others_called, _⟩ := route_of_call_iff_leading.1 other_read
  exact ordered ⟨args, calls⟩ ⟨others, others_called⟩

theorem in_order_sorted {declared : List (Nat × Route)}
    (ordered : declared.Pairwise fun a b => a.1 < b.1) {shuffled : List (Nat × Route)}
    (same : shuffled.Perm declared) :
    shuffled.mergeSort (fun a b => a.1 ≤ b.1) = declared := by
  have starts : (declared.map Prod.fst).Nodup :=
    List.pairwise_map.2 (ordered.imp fun before => Nat.ne_of_lt before)
  have sorted : (shuffled.mergeSort fun a b => a.1 ≤ b.1).Perm declared :=
    (List.mergeSort_perm _ _).trans same
  refine sorted.eq_of_pairwise (fun a b first second below above => ?_)
    (List.pairwise_mergeSort ?_ ?_ shuffled)
    (ordered.imp fun before => decide_eq_true (Nat.le_of_lt before))
  · exact List.inj_on_of_nodup_map starts (sorted.subset first) second
      (Nat.le_antisymm (of_decide_eq_true below) (of_decide_eq_true above))
  · intro a b c first second
    exact decide_eq_true
      (Nat.le_trans (of_decide_eq_true first) (of_decide_eq_true second))
  · intro a b
    rw [Bool.or_eq_true, decide_eq_true_iff, decide_eq_true_iff]
    exact Nat.le_total a.1 b.1

theorem routes_of_declared (nodes : List Node) :
    (nodes.filterMap declaredAt?).map (·.2) = nodes.filterMap routeOfCall? := by
  rw [List.map_filterMap]
  refine List.filterMap_congr fun n _ => ?_
  rw [declaredAt?, Option.map_map]
  exact Option.map_id'

theorem declared_of_calls (nodes : List Node) :
    (nodes.filter fun n => (routeArguments? n).isSome).filterMap declaredAt? =
      nodes.filterMap declaredAt? := by
  rw [List.filterMap_filter]
  refine List.filterMap_congr fun n _ => ?_
  cases called : routeArguments? n with
  | some args => rfl
  | none => simp [declaredAt?, routeOfCall?, called]

theorem sorted_routes_eq {tree : Node} (laid : tree.IsLaidOut) (first : CalleesFirst tree)
    {found : List Node}
    (same : (found.filterMap declaredAt?).Perm (tree.preorder.filterMap declaredAt?)) :
    sortedRoutes found = tree.preorder.filterMap routeOfCall? := by
  rw [sortedRoutes, in_order_sorted (declared_in_order laid first) same, routes_of_declared]

theorem call_routes_laid_out {tree : Node} (laid : tree.IsLaidOut) (first : CalleesFirst tree) :
    callRoutes tree = tree.preorder.filterMap routeOfCall? :=
  sorted_routes_eq laid first (List.Perm.refl _)

theorem finding_unreported {tree : Node} (clear : tree.syntaxError? = none) :
    Finding.ofTree tree = ⟨callRoutes tree, none⟩ := by
  rw [Finding.ofTree, clear]

/-- The routes found in a tree are those that its calls declare, but for calls in which a comment of
a markup text hides an argument. -/
structure ListsCalls (tree : Node) (found : Finding) : Prop where
  clear : found.error? = none
  entries : Listed (fun n route => Declares n route ∧ ¬HidesArgument n) tree.preorder found.routes
  ordered : tree.preorder.Pairwise fun a b => (∃ route, Declares a route) →
    (∃ route, Declares b route) → a.head.startByte < b.head.startByte
  whole_iff : Listed Declares tree.preorder found.routes ↔
    ∀ n ∈ tree.preorder, (∃ route, Declares n route) → ¬HidesArgument n
  /-- The calls may be found in any order. -/
  any_order : ∀ calls : List Node,
    calls.Perm (tree.preorder.filter fun n => (routeArguments? n).isSome) →
    sortedRoutes calls = found.routes

variable {parser : Script.Parser} {source file : String}

/-- Of a sound tree every call that declares a route is listed, one by one in the order of the text,
unless a comment of a markup text stands ahead of its second argument; and nothing else is listed.
All that counts of a call's arguments are the kinds and texts of the first two, usual comments
aside. -/
theorem declared_calls_listed (shows : (treeOf parser source file).ShowsDamage)
    (sound : (treeOf parser source file).IsSound) (laid : (treeOf parser source file).IsLaidOut)
    (first : CalleesFirst (treeOf parser source file)) :
    ListsCalls (treeOf parser source file) (.ofTree (treeOf parser source file)) ∧
    ∀ n args m others, CallsRoute n args → CallsRoute m others →
      (leading args).map (fun a => (a.kind, a.text)) =
        (leading others).map (fun a => (a.kind, a.text)) →
      ∀ route, Declares n route ∧ ¬HidesArgument n ↔ Declares m route ∧ ¬HidesArgument m := by
  generalize treeOf parser source file = tree at *
  have reported : tree.syntaxError? = none := by
    rw [Node.syntax_error_eq shows, (Node.foremost_fault_none_iff tree).2 sound, Option.map_none]
  have routes := call_routes_laid_out laid first
  have entries : Listed (fun n route => Declares n route ∧ ¬HidesArgument n) tree.preorder
      (callRoutes tree) := by
    rw [routes]
    exact .of_filter_map (fun n route => route_of_call_iff) _
  rw [finding_unreported reported]
  refine ⟨⟨rfl, entries, ?_, ⟨fun whole n member declares => ?_, fun none_hidden => ?_⟩, ?_⟩, ?_⟩
  · refine (calls_in_order laid first).imp fun {a b} before => ?_
    rintro ⟨_, args, calls, _⟩ ⟨_, others, others_called, _⟩
    exact before ⟨args, calls⟩ ⟨others, others_called⟩
  · obtain ⟨_, _, open_arguments⟩ :=
      entries.none_left whole (fun _ _ read => read.1) n member declares
    exact open_arguments
  · exact entries.of_same fun n member route =>
      ⟨And.left, fun declares => ⟨declares, none_hidden n member ⟨route, declares⟩⟩⟩
  · intro calls same
    have declared := same.filterMap declaredAt?
    rw [declared_of_calls] at declared
    rw [sorted_routes_eq laid first declared, routes]
  · intro n args m others calls others_called same route
    rw [← route_of_call_iff, ← route_of_call_iff, route_of_call_same calls others_called same]

theorem Listed.none_of_nil {HasRoute : Node → Route → Prop} {nodes : List Node}
    (listed : Listed HasRoute nodes []) : ∀ n ∈ nodes, ∀ route, ¬HasRoute n route := by
  generalize none_listed : ([] : List Route) = routes at listed
  induction listed with
  | nil => exact fun n member => absurd member List.not_mem_nil
  | entry => cases none_listed
  | other none _ ih =>
      intro n member
      rcases List.mem_cons.1 member with rfl | later
      · exact none
      · exact ih none_listed n later

/-- A call with a line in front of its arguments that starts as a comment of a markup text. -/
def markedCall : Node :=
  .mk (headAt .start "call_expression" true "route(<!-- home\n \"/a\", \"b.tsx\")" [])
    [.mk (headAt .start "identifier" true "route" ["function"]) [],
    .mk (headAt ⟨5, 0, 5⟩ "arguments" true "(<!-- home\n \"/a\", \"b.tsx\")" ["arguments"])
      [tokenAt ⟨5, 0, 5⟩ "(", .mk (headAt ⟨6, 0, 6⟩ "html_comment" true "<!-- home" []) [],
        literalAt ⟨17, 1, 1⟩ "/a", tokenAt ⟨21, 1, 5⟩ ",", literalAt ⟨23, 1, 7⟩ "b.tsx",
        tokenAt ⟨30, 1, 14⟩ ")"]]

def markedTree : Node :=
  .mk (headAt .start "program" true "route(<!-- home\n \"/a\", \"b.tsx\");" [])
    [.mk (headAt .start "expression_statement" true "route(<!-- home\n \"/a\", \"b.tsx\");" [])
      [markedCall, tokenAt ⟨31, 1, 15⟩ ";"]]

/-- The one call of a sound tree declares a route, and none is listed. -/
theorem marked_call_missed :
    (markedTree.ShowsDamage ∧ markedTree.IsSound ∧ markedTree.IsLaidOut ∧
      CalleesFirst markedTree) ∧
    Declares markedCall (.of "/a" "b.tsx") ∧
    Finding.ofTree markedTree = ⟨[], none⟩ ∧
    ¬Listed Declares markedTree.preorder (Finding.ofTree markedTree).routes := by
  have declares : Declares markedCall (.of "/a" "b.tsx") :=
    ⟨_, ⟨rfl, ⟨_, rfl, rfl, rfl⟩, rfl, rfl⟩, _, _, rfl, ⟨rfl, rfl⟩, by decide +kernel,
      by decide +kernel⟩
  have none_declared : markedTree.preorder.filterMap declaredAt? = [] := by decide +kernel
  have nothing : Finding.ofTree markedTree = ⟨[], none⟩ := by
    have routes : callRoutes markedTree = [] := by
      rw [call_routes_eq, none_declared, List.mergeSort_nil, List.map_nil]
    rw [finding_unreported rfl, routes]
  refine ⟨by decide +kernel, declares, nothing, fun whole => ?_⟩
  rw [nothing] at whole
  exact whole.none_of_nil markedCall (by exact .tail _ (.tail _ (.head _))) _ declares

/-- A route among the arguments of another one, behind comments of both kinds. -/
def nestedTree : Node :=
  .mk (headAt .start "program" true
      "route(/* é */ \"/a\", \"a\", () => route(\"/b\", // c\n \"b\"));\nroute(x, \"d\")" [])
    [.mk (headAt .start "expression_statement" true
        "route(/* é */ \"/a\", \"a\", () => route(\"/b\", // c\n \"b\"));" [])
      [.mk (headAt .start "call_expression" true
          "route(/* é */ \"/a\", \"a\", () => route(\"/b\", // c\n \"b\"))" [])
        [.mk (headAt .start "identifier" true "route" ["function"]) [],
        .mk (headAt ⟨5, 0, 5⟩ "arguments" true
            "(/* é */ \"/a\", \"a\", () => route(\"/b\", // c\n \"b\"))" ["arguments"])
          [tokenAt ⟨5, 0, 5⟩ "(", .mk (headAt ⟨6, 0, 6⟩ "comment" true "/* é */" []) [],
          literalAt ⟨15, 0, 15⟩ "/a", tokenAt ⟨19, 0, 19⟩ ",", literalAt ⟨21, 0, 21⟩ "a",
          tokenAt ⟨24, 0, 24⟩ ",",
          .mk (headAt ⟨26, 0, 26⟩ "arrow_function" true "() => route(\"/b\", // c\n \"b\")" [])
            [.mk (headAt ⟨26, 0, 26⟩ "formal_parameters" true "()" ["parameters"])
              [tokenAt ⟨26, 0, 26⟩ "(", tokenAt ⟨27, 0, 27⟩ ")"],
            tokenAt ⟨29, 0, 29⟩ "=>",
            .mk (headAt ⟨32, 0, 32⟩ "call_expression" true "route(\"/b\", // c\n \"b\")" ["body"])
              [.mk (headAt ⟨32, 0, 32⟩ "identifier" true "route" ["function"]) [],
              .mk (headAt ⟨37, 0, 37⟩ "arguments" true "(\"/b\", // c\n \"b\")" ["arguments"])
                [tokenAt ⟨37, 0, 37⟩ "(", literalAt ⟨38, 0, 38⟩ "/b", tokenAt ⟨42, 0, 42⟩ ",",
                .mk (headAt ⟨44, 0, 44⟩ "comment" true "// c" []) [],
                literalAt ⟨50, 1, 1⟩ "b", tokenAt ⟨53, 1, 4⟩ ")"]]],
          tokenAt ⟨54, 1, 5⟩ ")"]],
      tokenAt ⟨55, 1, 6⟩ ";"],
    .mk (headAt ⟨57, 2, 0⟩ "expression_statement" true "route(x, \"d\")" [])
      [.mk (headAt ⟨57, 2, 0⟩ "call_expression" true "route(x, \"d\")" [])
        [.mk (headAt ⟨57, 2, 0⟩ "identifier" true "route" ["function"]) [],
        .mk (headAt ⟨62, 2, 5⟩ "arguments" true "(x, \"d\")" ["arguments"])
          [tokenAt ⟨62, 2, 5⟩ "(", .mk (headAt ⟨63, 2, 6⟩ "identifier" true "x" []) [],
          tokenAt ⟨64, 2, 7⟩ ",", literalAt ⟨66, 2, 9⟩ "d", tokenAt ⟨69, 2, 12⟩ ")"]]]]

/-- The inner of two calls is listed after the outer one, and a call of a variable is not. -/
theorem nested_calls_listed :
    let parser : Script.Parser := fun _ _ => nestedTree
    let tree := treeOf parser "" "routes.ts"
    (tree.ShowsDamage ∧ tree.IsSound ∧ tree.IsLaidOut ∧ CalleesFirst tree) ∧
      ListsCalls tree (.ofTree tree) ∧
      Finding.ofTree tree = ⟨[.of "/a" "a", .of "/b" "b"], none⟩ := by
  intro parser tree
  have given : nestedTree.ShowsDamage ∧ nestedTree.IsSound ∧ nestedTree.IsLaidOut ∧
      CalleesFirst nestedTree := by decide +kernel
  have listed := (@declared_calls_listed parser "" "routes.ts" given.1 given.2.1 given.2.2.1
    given.2.2.2).1
  have routes : callRoutes nestedTree = [.of "/a" "a", .of "/b" "b"] := by
    rw [call_routes_laid_out given.2.2.1 given.2.2.2]
    decide +kernel
  exact ⟨given, listed, routes ▸ finding_unreported rfl⟩

end StorefrontSurvey.Routes
