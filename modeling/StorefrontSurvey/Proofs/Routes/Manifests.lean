import StorefrontSurvey.Proofs.Text.Encoding
import StorefrontSurvey.Proofs.Tools.Answers
/-!
Manifests as they are usually written: one array of calls, each on a line of its own. What a parser
has to make of such a text is spelled out node by node; the main statement says that its routes are
then listed as they were written, however many there are and whatever their texts hold.
-/
namespace StorefrontSurvey.Routes

open Script (Node NodeHead)

/-- A pattern and a file, as they stand in a manifest. -/
structure Declaration where
  pattern : String
  file : String
  deriving DecidableEq, Repr

def Declaration.route (d : Declaration) : Route := .of d.pattern d.file

/-- Characters that no text between double quotes can hold as they are: the quote, what opens an
escape, what ends a line, and the null character. -/
def barredInText : List Char := ['"', '\\', '\n', '\r', '\u2028', '\u2029', '\x00']

def IsPlainText (text : String) : Prop := text ≠ "" ∧ ∀ c ∈ text.toList, c ∉ barredInText

instance (text : String) : Decidable (IsPlainText text) :=
  decidable_of_iff (text ≠ "" ∧ text.toList.all (fun c => decide (c ∉ barredInText)) = true)
    (by simp only [IsPlainText, List.all_eq_true, decide_eq_true_iff])

def Declaration.IsPlain (d : Declaration) : Prop := IsPlainText d.pattern ∧ IsPlainText d.file

instance (d : Declaration) : Decidable d.IsPlain :=
  inferInstanceAs (Decidable (IsPlainText d.pattern ∧ IsPlainText d.file))

/-! ### Texts -/

def inQuotes (text : String) : String := "\"" ++ text ++ "\""

namespace Declaration

def argumentsText (d : Declaration) : String :=
  "(" ++ inQuotes d.pattern ++ ", " ++ inQuotes d.file ++ ")"

def callText (d : Declaration) : String := "route" ++ d.argumentsText

def line (d : Declaration) : String := "  " ++ d.callText ++ ",\n"

end Declaration

def linesText (ds : List Declaration) : String := String.join (ds.map Declaration.line)

def manifestText (ds : List Declaration) : String := "export default [\n" ++ linesText ds ++ "];\n"

/-! ### Trees -/

/-- A place in a text, in bytes. -/
structure Spot where
  byte : Nat
  row : Nat
  column : Nat

namespace Spot

def start : Spot := ⟨0, 0, 0⟩

def next (s : Spot) (c : Char) : Spot :=
  if c = '\n' then ⟨s.byte + 1, s.row + 1, 0⟩
  else ⟨s.byte + c.utf8Size, s.row, s.column + c.utf8Size⟩

/-- The place after a text. -/
def after (s : Spot) (text : String) : Spot := text.toList.foldl next s

end Spot

def headAt (s : Spot) (kind : String) (named : Bool) (text : String) (fields : List String) :
    NodeHead :=
  { kind, named, missing := false, damaged := false, startByte := s.byte, row := s.row
    column := s.column, text, fields }

/-- A mark or a word of the language, which is shown as it is written. -/
def tokenAt (s : Spot) (text : String) : Node := .mk (headAt s text false text []) []

def literalAt (s : Spot) (text : String) : Node :=
  let inside := s.after "\""
  .mk (headAt s "string" true (inQuotes text) [])
    [tokenAt s "\"", .mk (headAt inside "string_fragment" true text []) [],
      tokenAt (inside.after text) "\""]

def argumentsAt (s : Spot) (d : Declaration) : Node :=
  let first := s.after "("
  let comma := first.after (inQuotes d.pattern)
  let second := comma.after ", "
  .mk (headAt s "arguments" true d.argumentsText ["arguments"])
    [tokenAt s "(", literalAt first d.pattern, tokenAt comma ",", literalAt second d.file,
      tokenAt (second.after (inQuotes d.file)) ")"]

def callAt (s : Spot) (d : Declaration) : Node :=
  .mk (headAt s "call_expression" true d.callText [])
    [.mk (headAt s "identifier" true "route" ["function"]) [], argumentsAt (s.after "route") d]

/-- The calls of an array from a place on, with the commas after them. -/
def callsAt (s : Spot) : List Declaration → List Node
  | [] => []
  | d :: rest =>
    let call := s.after "  "
    callAt call d :: tokenAt (call.after d.callText) "," :: callsAt (s.after d.line) rest

def arrayText (ds : List Declaration) : String := "[\n" ++ linesText ds ++ "]"

def arrayAt (s : Spot) (ds : List Declaration) : Node :=
  let calls := s.after "[\n"
  .mk (headAt s "array" true (arrayText ds) ["value"])
    (tokenAt s "[" :: (callsAt calls ds ++ [tokenAt (calls.after (linesText ds)) "]"]))

/-- The tree of a manifest: an array that is exported by default. -/
def manifestTree (ds : List Declaration) : Node :=
  let array := Spot.start.after "export default "
  .mk (headAt .start "program" true (manifestText ds) [])
    [.mk (headAt .start "export_statement" true ("export default " ++ arrayText ds ++ ";") [])
      [tokenAt .start "export", tokenAt (Spot.start.after "export ") "default", arrayAt array ds,
        tokenAt (array.after (arrayText ds)) ";"]]

/-! ### Routes of a tree -/

variable {d : Declaration} {ds : List Declaration}

theorem spot_after_append (s : Spot) (first second : String) :
    s.after (first ++ second) = (s.after first).after second := by
  simp only [Spot.after, String.toList_append, List.foldl_append]

theorem byte_le_after (s : Spot) (text : String) : s.byte ≤ (s.after text).byte := by
  unfold Spot.after
  generalize text.toList = chars
  induction chars generalizing s with
  | nil => exact Nat.le_refl _
  | cons c rest ih =>
      have step : s.byte ≤ (s.next c).byte := by
        unfold Spot.next
        split <;> exact Nat.le_add_right _ _
      exact step.trans (ih (s.next c))

theorem literal_unquoted (s : Spot) (text : String) : (literalAt s text).unquoted = text := by
  have chars : (inQuotes text).toList = '"' :: (text.toList ++ ['"']) := by
    simp [inQuotes]
  have size : 2 ≤ ('"' :: (text.toList ++ ['"'])).length := by simp
  simp only [Node.unquoted, literalAt, Node.text, Node.head, headAt, chars, if_pos size,
    List.drop_succ_cons, List.drop_zero, List.dropLast_concat, String.ofList_toList]

theorem arguments_of_call (s : Spot) (d : Declaration) :
    routeArguments? (callAt s d) = some (argumentsAt (s.after "route") d) := rfl

theorem literals_of_arguments (s : Spot) (d : Declaration) :
    (argumentsAt s d).namedChildren.filter (·.kind ≠ "comment") =
      [literalAt (s.after "(") d.pattern,
        literalAt (((s.after "(").after (inQuotes d.pattern)).after ", ") d.file] := rfl

theorem route_of_call (s : Spot) (plain : d.IsPlain) :
    routeOfCall? (callAt s d) = some d.route := by
  simp only [routeOfCall?, arguments_of_call, literals_of_arguments, literal_unquoted]
  rw [if_pos ⟨rfl, rfl, plain.1.1, plain.2.1⟩, Declaration.route]

/-- The route that a node declares, with the place where it starts. -/
def declaredAt? (n : Node) : Option (Nat × Route) :=
  (routeOfCall? n).map fun route => (n.head.startByte, route)

theorem call_routes_eq (tree : Node) :
    callRoutes tree = ((tree.preorder.filterMap declaredAt?).mergeSort
      fun a b => a.1 ≤ b.1).map Prod.snd := rfl

theorem declared_other {n : Node} (other : n.kind ≠ "call_expression") :
    declaredAt? n = none := by
  simp only [declaredAt?, routeOfCall?, routeArguments?, if_neg other, Option.map_none]

theorem declared_nothing {nodes : List Node}
    (noCall : "call_expression" ∉ nodes.map Node.kind) : nodes.filterMap declaredAt? = [] := by
  refine List.filterMap_eq_nil_iff.2 fun n member => declared_other ?_
  rintro same
  exact noCall (same ▸ List.mem_map_of_mem member)

theorem declared_in_token (s : Spot) {text : String} (other : text ≠ "call_expression") :
    (tokenAt s text).preorder.filterMap declaredAt? = [] :=
  declared_nothing (by simpa [Node.preorder, Node.preorder.preorderAll, tokenAt, Node.kind,
    Node.head, headAt] using other.symm)

theorem declared_in_other {n : Node} (kind : String) (same : n.kind = kind)
    (other : kind ≠ "call_expression") :
    n.preorder.filterMap declaredAt? =
      (Node.preorder.preorderAll n.children).filterMap declaredAt? := by
  cases n with
  | mk head children =>
      rw [Node.preorder, List.filterMap_cons_none (declared_other (same ▸ other))]
      rfl

theorem declared_in_call (s : Spot) (plain : d.IsPlain) :
    (callAt s d).preorder.filterMap declaredAt? = [(s.byte, d.route)] := by
  have whole : (callAt s d).preorder =
      callAt s d :: Node.preorder.preorderAll (callAt s d).children := rfl
  have kinds : (Node.preorder.preorderAll (callAt s d).children).map Node.kind =
      ["identifier", "arguments", "(", "string", "\"", "string_fragment", "\"", ",", "string",
        "\"", "string_fragment", "\"", ")"] := rfl
  have here : declaredAt? (callAt s d) = some (s.byte, d.route) := by
    rw [declaredAt?, route_of_call s plain]
    rfl
  rw [whole, List.filterMap_cons_some here, declared_nothing (by rw [kinds]; decide)]

/-- The routes of an array from a place on, each with the place of its call. -/
def placedRoutes (s : Spot) : List Declaration → List (Nat × Route)
  | [] => []
  | d :: rest => ((s.after "  ").byte, d.route) :: placedRoutes (s.after d.line) rest

theorem declared_in_calls (s : Spot) (plain : ∀ d ∈ ds, d.IsPlain) :
    (Node.preorder.preorderAll (callsAt s ds)).filterMap declaredAt? = placedRoutes s ds := by
  induction ds generalizing s with
  | nil => rfl
  | cons d rest ih =>
      have comma := declared_in_token ((s.after "  ").after d.callText)
        (show "," ≠ "call_expression" by decide)
      have later := ih (s.after d.line) fun other member =>
        plain other (List.mem_cons_of_mem _ member)
      simp only [callsAt, Node.preorder.preorderAll, List.filterMap_append, comma, later,
        declared_in_call _ (plain d List.mem_cons_self)]
      rfl

theorem placed_after (s : Spot) (ds : List Declaration) :
    ∀ placed ∈ placedRoutes s ds, s.byte ≤ placed.1 := by
  induction ds generalizing s with
  | nil => simp [placedRoutes]
  | cons d rest ih =>
      intro placed member
      rcases List.mem_cons.1 member with rfl | later
      · exact byte_le_after s "  "
      · exact (byte_le_after s d.line).trans (ih (s.after d.line) placed later)

theorem placed_in_order (s : Spot) (ds : List Declaration) :
    (placedRoutes s ds).Pairwise fun a b => a.1 ≤ b.1 := by
  induction ds generalizing s with
  | nil => exact List.Pairwise.nil
  | cons d rest ih =>
      refine List.Pairwise.cons (fun placed later => ?_) (ih (s.after d.line))
      have split : s.after d.line = (s.after "  ").after (d.callText ++ ",\n") := by
        rw [← spot_after_append, Declaration.line, String.append_assoc]
      have here : (s.after "  ").byte ≤ (s.after d.line).byte := by
        rw [split]
        exact byte_le_after _ _
      exact here.trans (placed_after _ rest placed later)

theorem placed_routes_snd (s : Spot) (ds : List Declaration) :
    (placedRoutes s ds).map Prod.snd = ds.map Declaration.route := by
  induction ds generalizing s with
  | nil => rfl
  | cons d rest ih => rw [placedRoutes, List.map_cons, List.map_cons, ih]

theorem declared_in_array (s : Spot) (plain : ∀ d ∈ ds, d.IsPlain) :
    (arrayAt s ds).preorder.filterMap declaredAt? = placedRoutes (s.after "[\n") ds := by
  have opening := declared_in_token s (show "[" ≠ "call_expression" by decide)
  have closing := declared_in_token ((s.after "[\n").after (linesText ds))
    (show "]" ≠ "call_expression" by decide)
  rw [declared_in_other "array" rfl (by decide)]
  simp only [arrayAt, Node.children, Node.preorder.preorderAll, Node.preorder_all_append,
    List.filterMap_append, opening, closing, declared_in_calls _ plain, List.nil_append,
    List.append_nil]

/-- The tree of a manifest yields the routes that are written in it, in their order. -/
theorem manifest_tree_routes (plain : ∀ d ∈ ds, d.IsPlain) :
    callRoutes (manifestTree ds) = ds.map Declaration.route := by
  let calls := (Spot.start.after "export default ").after "[\n"
  have word (s : Spot) : (tokenAt s "export").preorder.filterMap declaredAt? = [] :=
    declared_in_token s (by decide)
  have second (s : Spot) : (tokenAt s "default").preorder.filterMap declaredAt? = [] :=
    declared_in_token s (by decide)
  have last (s : Spot) : (tokenAt s ";").preorder.filterMap declaredAt? = [] :=
    declared_in_token s (by decide)
  have declared : (manifestTree ds).preorder.filterMap declaredAt? = placedRoutes calls ds := by
    rw [declared_in_other "program" rfl (by decide)]
    simp only [manifestTree, Node.children, Node.preorder.preorderAll, List.append_nil]
    rw [declared_in_other "export_statement" rfl (by decide)]
    simp only [Node.children, Node.preorder.preorderAll, List.filterMap_append, word, second,
      last, declared_in_array _ plain, List.nil_append, List.append_nil]
    rfl
  have sorted : (placedRoutes calls ds).mergeSort (fun a b => a.1 ≤ b.1) =
      placedRoutes calls ds :=
    List.mergeSort_of_pairwise
      ((placed_in_order calls ds).imp fun ordered => decide_eq_true ordered)
  rw [call_routes_eq, declared, sorted, placed_routes_snd]

/-! ### Listings -/

variable {parser : Script.Parser} {files : Files} {rootPath file text : String}

theorem choose_many {routes : List Route} {text : Unit → Finding}
    (many : expectedRoutes ≤ routes.length) : choose ⟨routes, none⟩ text = ⟨routes, .high, []⟩ := by
  have some : routes.isEmpty = false := by
    rw [List.isEmpty_eq_false_iff, ← List.length_pos_iff]
    exact Nat.lt_of_lt_of_le (by decide) many
  rw [choose, some, if_neg Bool.false_ne_true, if_neg (Nat.not_lt.2 many)]

theorem choose_few {routes : List Route} {text : Unit → Finding} (some : routes ≠ [])
    (few : routes.length < expectedRoutes) :
    choose ⟨routes, none⟩ text = ⟨routes, .medium, [partialWarning routes.length]⟩ := by
  rw [choose, List.isEmpty_eq_false_iff.2 some, if_neg Bool.false_ne_true, if_pos few]

theorem choose_text (text : String) :
    choose ⟨[], none⟩ (fun _ => fromText text) = ⟨textRoutes text, .low, [emptyWarning]⟩ := rfl

theorem manifest_tree_sound (ds : List Declaration) : (manifestTree ds).syntaxError? = none := rfl

/-- A path that stays in a root leads to a file that holds a text. -/
def HoldsText (files : Files) (rootPath file text : String) : Prop :=
  ∃ place, Sandbox.resolve files rootPath file = .ok place ∧
    files.content place = .ok (Text.encode text.toList)

theorem read_held (held : HoldsText files rootPath file text) (free : '\r' ∉ text.toList) :
    Sandbox.readText files rootPath file = .ok text.toList := by
  obtain ⟨place, resolved, content⟩ := held
  simp only [Sandbox.readText, resolved, content, Text.of_bytes_encode _ free, bind, Except.bind]
  rfl

theorem line_without_returns (plain : d.IsPlain) : '\r' ∉ d.line.toList := by
  have barred : '\r' ∈ barredInText := by decide
  have pattern : '\r' ∉ d.pattern.toList := fun member => plain.1.2 _ member barred
  have served : '\r' ∉ d.file.toList := fun member => plain.2.2 _ member barred
  simp [Declaration.line, Declaration.callText, Declaration.argumentsText, inQuotes, pattern,
    served]

theorem manifest_without_returns (plain : ∀ d ∈ ds, d.IsPlain) :
    '\r' ∉ (manifestText ds).toList := by
  have lines : '\r' ∉ (linesText ds).toList := by
    rw [linesText, String.toList_join]
    intro member
    obtain ⟨line, among, inside⟩ := List.mem_flatMap.1 member
    obtain ⟨d, declared, rfl⟩ := List.mem_map.1 among
    exact line_without_returns (plain d declared) inside
  have opening : '\r' ∉ "export default [\n".toList := by simp
  have closing : '\r' ∉ "];\n".toList := by simp
  unfold manifestText
  rw [String.toList_append, String.toList_append, List.mem_append, List.mem_append]
  rintro ((first | among) | last)
  · exact opening first
  · exact lines among
  · exact closing last

theorem list_held (held : HoldsText files rootPath file text) (free : '\r' ∉ text.toList) :
    listFileBy parser files rootPath file = .ok (listBy parser text file) := by
  simp only [listFileBy, read_held held free, String.ofList_toList]

theorem list_manifest (plain : ∀ d ∈ ds, d.IsPlain)
    (parsed : parser (Script.dialectOf file) (manifestText ds) = manifestTree ds) :
    listBy parser (manifestText ds) file =
      choose ⟨ds.map Declaration.route, none⟩ fun _ => fromText (manifestText ds) := by
  simp only [listBy, parsed, Finding.ofTree, manifest_tree_sound, manifest_tree_routes plain]

theorem bare_manifest_text_routes : textRoutes (manifestText []) = [] := by decide +kernel

theorem manifest_listing (held : HoldsText files rootPath file (manifestText ds))
    (plain : ∀ d ∈ ds, d.IsPlain)
    (parsed : parser (Script.dialectOf file) (manifestText ds) = manifestTree ds) :
    listFileBy parser files rootPath file =
      .ok (choose ⟨ds.map Declaration.route, none⟩ fun _ => fromText (manifestText ds)) := by
  rw [list_held held (manifest_without_returns plain), list_manifest plain parsed]

/-- A manifest that holds its routes line by line is listed as it is written, whatever their texts:
with high confidence from three routes on, and with a warning if there are fewer. Without routes it
is searched as a text, where there are none either. -/
theorem manifest_round_trip (held : HoldsText files rootPath "app/routes.ts" (manifestText ds))
    (plain : ∀ d ∈ ds, d.IsPlain)
    (parsed : parser .typescript (manifestText ds) = manifestTree ds) :
    (3 ≤ ds.length → listFileBy parser files rootPath "app/routes.ts" =
      .ok ⟨ds.map Declaration.route, .high, []⟩) ∧
    (ds.length = 1 ∨ ds.length = 2 → ∃ warning : Warning, warning.code = "PARTIAL_PARSE" ∧
      listFileBy parser files rootPath "app/routes.ts" =
        .ok ⟨ds.map Declaration.route, .medium, [warning]⟩) ∧
    (ds.length = 0 → ∃ warning : Warning, warning.code = "ROUTES_PARSE_FALLBACK_REGEX" ∧
      listFileBy parser files rootPath "app/routes.ts" = .ok ⟨[], .low, [warning]⟩ ∧
      ∀ config routesFile?, config.root = rootPath →
        Tools.manifestFor config routesFile? = "app/routes.ts" →
        Tools.listRoutesBy parser files config routesFile? =
          .ok (Wire.failure "NO_ROUTES_FOUND"
            ⟨"No routes found in the routes file", Tools.no_routes_text_ne⟩ .low [warning])) := by
  have dialect : Script.dialectOf "app/routes.ts" = .typescript := by decide +kernel
  have listed := manifest_listing held plain (dialect ▸ parsed)
  have size : (ds.map Declaration.route).length = ds.length := List.length_map _
  refine ⟨fun many => ?_, fun few => ?_, fun none => ?_⟩
  · rw [listed, choose_many]
    rw [size]
    exact many
  · have some : ds.map Declaration.route ≠ [] := by
      rw [← List.length_pos_iff]
      omega
    have short : (ds.map Declaration.route).length < expectedRoutes := by
      unfold expectedRoutes
      omega
    refine ⟨partialWarning ds.length, rfl, ?_⟩
    rw [listed, choose_few some short, size]
  · obtain rfl := List.length_eq_zero_iff.1 none
    have listed : listFileBy parser files rootPath "app/routes.ts" =
        .ok ⟨[], .low, [emptyWarning]⟩ := by
      rw [listed, List.map_nil, choose_text, bare_manifest_text_routes]
    refine ⟨emptyWarning, rfl, listed, ?_⟩
    rintro config routesFile? rfl manifest
    unfold Tools.manifestFor at manifest
    simp only [Tools.listRoutesBy, manifest, listed]
    rfl

/-- Texts that would mislead a search for calls. -/
def markedRoutes : List Declaration :=
  [⟨"/*", "all.tsx"⟩, ⟨"*/, route('a', 'b')", "é.tsx"⟩, ⟨"// route(", "(c),.tsx"⟩]

def onlyManifest (text : String) : Files :=
  let app := "app".toList
  ⟨[([['r']], .directory none), ([['r'], app], .directory none),
    ([['r'], app, "routes.ts".toList], .file (Text.encode text.toList) 0)]⟩

theorem marked_routes_held :
    HoldsText (onlyManifest (manifestText markedRoutes)) "/r" "app/routes.ts"
      (manifestText markedRoutes) := by
  have resolved : Sandbox.resolve (onlyManifest (manifestText markedRoutes)) "/r"
      "app/routes.ts" = .ok ⟨[['r'], "app".toList, "routes.ts".toList], false⟩ := by
    decide +kernel
  exact ⟨_, resolved, by decide +kernel⟩

theorem marked_routes_plain : ∀ d ∈ markedRoutes, d.IsPlain := by decide +kernel

theorem marked_routes_listed :
    let files := onlyManifest (manifestText markedRoutes)
    HoldsText files "/r" "app/routes.ts" (manifestText markedRoutes) ∧
      (∀ d ∈ markedRoutes, d.IsPlain) ∧
      listFileBy (fun _ _ => manifestTree markedRoutes) files "/r" "app/routes.ts" =
        .ok ⟨markedRoutes.map Declaration.route, .high, []⟩ :=
  ⟨marked_routes_held, marked_routes_plain,
    (manifest_round_trip marked_routes_held marked_routes_plain rfl).1 (by decide)⟩

end StorefrontSurvey.Routes
