import StorefrontSurvey.Proofs.Routes.Manifests
import StorefrontSurvey.Proofs.Script.Faults
/-!
Where the routes of a listing come from: from the syntax tree, if there is no fault in it and it
yields any, or else from the text; never from both. Nodes have to be marked as damaged by the parser
wherever there is a fault in them, since the search for a fault passes over all others.
-/
namespace StorefrontSurvey.Routes

open Script (Node)

variable {parser : Script.Parser} {files : Files} {rootPath file text : String}
  {listing : Listing}

/-- The tree that a parser makes of a manifest. -/
def treeOf (parser : Script.Parser) (text file : String) : Node :=
  parser (Script.dialectOf file) text

def WarnsOnce (warnings : List Warning) (code : String) : Prop :=
  ∃ warning, warnings = [warning] ∧ warning.code = code

/-- A listing of a manifest whose text is not known. -/
structure FromNothing (listing : Listing) : Prop where
  routes : listing.routes = []
  confidence : listing.confidence = .low
  warned : WarnsOnce listing.warnings "FILE_READ_ERROR"

structure FromTree (tree : Node) (listing : Listing) : Prop where
  sound : tree.IsSound
  found : callRoutes tree ≠ []
  routes : listing.routes = callRoutes tree
  many : 3 ≤ listing.routes.length → listing.confidence = .high ∧ listing.warnings = []
  few : listing.routes.length < 3 →
    listing.confidence = .medium ∧ WarnsOnce listing.warnings "PARTIAL_PARSE"

structure FromText (tree : Node) (text : String) (listing : Listing) : Prop where
  useless : tree.IsSound → callRoutes tree = []
  routes : listing.routes = textRoutes text
  confidence : listing.confidence = .low
  warned : WarnsOnce listing.warnings "ROUTES_PARSE_FALLBACK_REGEX"
  /-- The warning tells where the first fault is. -/
  told : ∀ fault, tree.foremostFault? = some fault → ∀ warning ∈ listing.warnings,
    (Script.Damage.at fault).message.toList <:+: warning.message.toList

theorem failed_warning_tells (error : String) :
    error.toList <:+: (failedWarning error).message.toList := by
  refine ⟨"AST parsing failed: ".toList,
    ". Falling back to regex. ".toList ++ textCaveat.toList, ?_⟩
  simp only [failedWarning, fallbackWarning, String.toList_append, List.append_assoc]

theorem FromTree.confident {tree : Node} (given : FromTree tree listing) :
    listing.confidence ≠ .low := by
  intro low
  rcases Nat.lt_or_ge listing.routes.length 3 with few | many
  · rw [(given.few few).1] at low
    cases low
  · rw [(given.many many).1] at low
    cases low

theorem broken_from_text {error : String} {fault : Script.Fault}
    (broken : ¬(treeOf parser text file).IsSound)
    (found : (treeOf parser text file).foremostFault? = some fault)
    (reported : (treeOf parser text file).syntaxError? = some error)
    (same : (Script.Damage.at fault).message = error) :
    FromText (treeOf parser text file) text (listBy parser text file) := by
  have listed : listBy parser text file = ⟨textRoutes text, .low, [failedWarning error]⟩ := by
    rw [treeOf] at reported
    simp only [listBy, Finding.ofTree, reported, choose, fromText]
  rw [listed]
  refine ⟨fun sound => absurd sound broken, rfl, rfl, ⟨_, rfl, rfl⟩, ?_⟩
  intro other first warning member
  obtain rfl : fault = other := Option.some.inj (found.symm.trans first)
  obtain rfl := List.mem_singleton.1 member
  rw [same]
  exact failed_warning_tells error

theorem sound_listed (reported : (treeOf parser text file).syntaxError? = none) :
    listBy parser text file =
      choose ⟨callRoutes (treeOf parser text file), none⟩ fun _ => fromText text := by
  rw [treeOf] at reported ⊢
  simp only [listBy, Finding.ofTree, reported]

theorem list_by_origin (shows : parser.ShowsDamage) (text file : String) :
    FromTree (treeOf parser text file) (listBy parser text file) ∨
      FromText (treeOf parser text file) text (listBy parser text file) := by
  have shown : (treeOf parser text file).ShowsDamage := shows _ text
  have reported := Node.syntax_error_eq shown
  cases found : (treeOf parser text file).foremostFault? with
  | some fault =>
      rw [found] at reported
      have broken : ¬(treeOf parser text file).IsSound := fun sound => by
        rw [(Node.foremost_fault_none_iff _).2 sound] at found
        cases found
      exact .inr (broken_from_text broken found reported rfl)
  | none =>
      rw [found] at reported
      have sound := (Node.foremost_fault_none_iff _).1 found
      rw [sound_listed reported]
      by_cases empty : callRoutes (treeOf parser text file) = []
      · right
        rw [empty, choose_text]
        refine ⟨fun _ => empty, rfl, rfl, ⟨_, rfl, rfl⟩, fun fault first => ?_⟩
        rw [found] at first
        cases first
      · left
        rcases Nat.lt_or_ge (callRoutes (treeOf parser text file)).length expectedRoutes with
          few | many
        · rw [choose_few empty few]
          refine ⟨sound, empty, rfl, fun many => ?_, fun _ => ⟨rfl, _, rfl, rfl⟩⟩
          exact absurd few (Nat.not_lt.2 many)
        · rw [choose_many many]
          exact ⟨sound, empty, rfl, fun _ => ⟨rfl, rfl⟩, fun few => absurd few (Nat.not_lt.2 many)⟩

/-! ### Origins -/

inductive Origin where
  | nothing
  | tree
  | text
  deriving DecidableEq, Repr

/-- A listing of a file has an origin, and is what this origin gives. -/
def Origin.Explains (parser : Script.Parser) (files : Files) (rootPath file : String)
    (listing : Listing) : Origin → Prop
  | .nothing => (∃ obstacle, Sandbox.readText files rootPath file = .error (.blocked obstacle)) ∧
      FromNothing listing
  | .tree => ∃ text, Sandbox.readText files rootPath file = .ok text ∧
      FromTree (treeOf parser (String.ofList text) file) listing
  | .text => ∃ text, Sandbox.readText files rootPath file = .ok text ∧
      FromText (treeOf parser (String.ofList text) file) (String.ofList text) listing

theorem origin_unique {first second : Origin}
    (one : first.Explains parser files rootPath file listing)
    (other : second.Explains parser files rootPath file listing) : first = second := by
  cases first <;> cases second
  case nothing.nothing | tree.tree | text.text => rfl
  case nothing.tree | nothing.text =>
    obtain ⟨⟨obstacle, blocked⟩, _⟩ := one
    obtain ⟨text, read, _⟩ := other
    rw [blocked] at read
    cases read
  case tree.nothing | text.nothing =>
    obtain ⟨text, read, _⟩ := one
    obtain ⟨⟨obstacle, blocked⟩, _⟩ := other
    rw [blocked] at read
    cases read
  case tree.text =>
    obtain ⟨_, _, tree⟩ := one
    obtain ⟨_, _, text⟩ := other
    exact absurd text.confidence tree.confident
  case text.tree =>
    obtain ⟨_, _, text⟩ := one
    obtain ⟨_, _, tree⟩ := other
    exact absurd text.confidence tree.confident

theorem some_origin (shows : parser.ShowsDamage)
    (returned : listFileBy parser files rootPath file = .ok listing) :
    ∃ origin : Origin, origin.Explains parser files rootPath file listing := by
  unfold listFileBy at returned
  split at returned
  case h_1 text read =>
    obtain rfl := Except.ok.inj returned
    rcases list_by_origin shows (String.ofList text) file with tree | text'
    · exact ⟨.tree, text, read, tree⟩
    · exact ⟨.text, text, read, text'⟩
  case h_2 obstacle blocked =>
    obtain rfl := Except.ok.inj returned
    exact ⟨.nothing, ⟨obstacle, blocked⟩, rfl, rfl, _, rfl, rfl⟩
  case h_3 => cases returned

theorem marked_tree_shows : (manifestTree markedRoutes).ShowsDamage := by
  have clear : ∀ m ∈ (manifestTree markedRoutes).preorder, m.head.damaged = false ∧
      ∀ inner ∈ m.preorder, inner.isError = false ∧ inner.head.missing = false := by
    unfold markedRoutes
    decide +kernel
  intro m member
  obtain ⟨unmarked, below⟩ := clear m member
  have sound : m.IsSound := by
    rintro inner inside (error | missing)
    · rw [(below inner inside).1] at error
      cases error
    · rw [(below inner inside).2] at missing
      cases missing
  rw [unmarked]
  exact iff_of_false Bool.false_ne_true (not_not_intro sound)

end StorefrontSurvey.Routes
