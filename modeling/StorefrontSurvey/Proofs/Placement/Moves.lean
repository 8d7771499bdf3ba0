import StorefrontSurvey.Proofs.Placement.Spelling
/-!
Suggested moves. The place that is suggested to a module is put together from the collapsed segments
of its directory, and it is read as it is written when the moved query is judged. So the move settles
the verdict exactly if the first `modules` on the way to that place is the one of the module itself.
What is suggested to platform and layout code always settles it.
-/
namespace StorefrontSurvey.Placement

open StorefrontSurvey.Path (Chars Segment ModuleSpan splitSlash unifySlashes unify_free unify_of_free
  moduleAmong? modulesName keptBelow normalText)

variable {consumer query target rationale : String} {allowlist : List String}

/-! ### The module of a suggested place -/

/-- On the way through some directories to a name, the first `modules` has the name in it. -/
def FirstHolds (name : Segment) (directories : List Segment) : Prop :=
  ∃ early rest, directories ++ [name] = early ++ modulesName :: name :: rest ∧
    modulesName ∉ early

theorem first_holds_nil (name : Segment) : ¬FirstHolds name [] := by
  rintro ⟨early, rest, whole, _⟩
  have length := congrArg List.length whole
  simp only [List.length_append, List.length_cons, List.length_nil] at length
  omega

theorem first_holds_modules {name next : Segment} {directories more : List Segment}
    (follows : directories ++ [name] = next :: more) :
    FirstHolds name (modulesName :: directories) ↔ next = name := by
  rw [FirstHolds, List.cons_append, follows]
  constructor
  · rintro ⟨early, rest, whole, none⟩
    cases early with
    | nil =>
        rw [List.nil_append, List.cons.injEq, List.cons.injEq] at whole
        exact whole.2.1
    | cons first others =>
        rw [List.cons_append, List.cons.injEq] at whole
        exact absurd (whole.1 ▸ List.mem_cons_self) none
  · rintro rfl
    exact ⟨[], more, rfl, by simp⟩

theorem first_holds_other {name first : Segment} {directories : List Segment}
    (other : first ≠ modulesName) :
    FirstHolds name (first :: directories) ↔ FirstHolds name directories := by
  constructor
  · rintro ⟨early, rest, whole, none⟩
    cases early with
    | nil =>
        rw [List.nil_append, List.cons_append, List.cons.injEq] at whole
        exact absurd whole.1 other
    | cons early others =>
        rw [List.cons_append, List.cons_append, List.cons.injEq] at whole
        exact ⟨others, rest, whole.2, fun member => none (List.mem_cons_of_mem early member)⟩
  · rintro ⟨early, rest, whole, none⟩
    refine ⟨first :: early, rest, by rw [List.cons_append, whole, List.cons_append], ?_⟩
    simp [none, Ne.symm other]

def queriesName : Segment := "graphql".toList

/-- A place below some directories, in the directory for queries of a name, is in the module of that
name exactly if the first `modules` holds the name. -/
theorem module_of_place_iff {name base : Segment} (directories : List Segment) (named : name ≠ [])
    (solid : ∀ directory ∈ directories, directory ≠ []) :
    moduleAmong? (directories ++ [name, queriesName, base]) = some name ↔
      FirstHolds name directories := by
  induction directories with
  | nil =>
      refine iff_of_false ?_ (first_holds_nil name)
      rw [List.nil_append]
      by_cases own : name = modulesName
      · rw [own, Path.module_among_modules (by decide) (by simp)]
        decide
      · rw [Path.module_among_other _ own, Path.module_among_other _ (by decide),
          Path.module_among_last]
        simp
  | cons first more ih =>
      obtain ⟨_, moreSolid⟩ := List.forall_mem_cons.1 solid
      rw [List.cons_append]
      by_cases mark : first = modulesName
      · obtain ⟨next, others, follows⟩ := List.exists_cons_of_ne_nil
          (show more ++ [name] ≠ [] by simp)
        have nextNamed : next ≠ [] := by
          have member : next ∈ more ++ [name] := follows ▸ List.mem_cons_self
          rcases List.mem_append.1 member with directory | last
          · exact moreSolid next directory
          · exact List.mem_singleton.1 last ▸ named
        have goesOn : more ++ [name, queriesName, base] = next :: (others ++ [queriesName, base]) := by
          rw [← List.cons_append, ← follows, List.append_assoc]
          rfl
        rw [mark, goesOn, Path.module_among_modules nextNamed (by simp),
          first_holds_modules follows, Option.some.injEq]
      · rw [Path.module_among_other _ mark, ih moreSolid, first_holds_other mark]

/-! ### Texts of suggested places -/

/-- A place in the directory for queries of a name. -/
def placeText (directory : Chars) (name base : Segment) : Chars :=
  directory ++ '/' :: (name ++ '/' :: (queriesName ++ '/' :: base))

theorem split_place (directory : Chars) {name base : Segment} (free : '/' ∉ name)
    (baseFree : '/' ∉ base) :
    splitSlash (placeText directory name base) =
      splitSlash directory ++ [name, queriesName, base] := by
  rw [placeText, Path.split_append_slash, Path.split_segment_slash name _ free,
    Path.split_segment_slash queriesName _ (by decide), Path.split_segment base baseFree]

theorem place_no_backslash {directory : Chars} {name base : Segment} (free : '\\' ∉ directory)
    (nameFree : '\\' ∉ name) (baseFree : '\\' ∉ base) :
    '\\' ∉ placeText directory name base := by
  have queries : '\\' ∉ queriesName := by decide
  simp [placeText, free, nameFree, baseFree, queries]

theorem owner_of_plain_text {path : String} (free : '\\' ∉ path.toList) :
    ownerOf path = ownerAmong (splitSlash path.toList).tail := by
  rw [owner_of_written, written, unify_of_free free]

theorem last_segment_free (path : String) :
    '/' ∉ (Path.lastSegment path).toList ∧ '\\' ∉ (Path.lastSegment path).toList := by
  rw [Path.lastSegment, String.toList_ofList]
  cases last : (splitSlash (unifySlashes path.toList)).getLast? with
  | none => exact absurd (List.getLast?_eq_none_iff.1 last) (Path.split_ne_nil _)
  | some segment =>
      have member := List.mem_of_getLast? last
      exact ⟨Path.split_slash_free _ _ member,
        fun within => unify_free path.toList (Path.mem_of_mem_split member within)⟩

/-- What is read off a path with its slashes unified holds no backslash. -/
theorem span_no_backslash {span : ModuleSpan}
    (found : Path.moduleSpan? (unifySlashes consumer.toList) = some span) :
    '\\' ∉ span.before ∧ '\\' ∉ span.name := by
  obtain ⟨after, text⟩ := (Path.module_span_text found).text_eq
  have free := unify_free consumer.toList
  rw [text] at free
  simp only [List.mem_append, List.mem_cons, not_or] at free
  exact ⟨free.1, free.2.2.2.2.1⟩

/-- The directory of modules that a span lies in. -/
def directoryText (span : ModuleSpan) : Chars := span.before ++ "/modules".toList

theorem directory_no_backslash {span : ModuleSpan}
    (found : Path.moduleSpan? (unifySlashes consumer.toList) = some span) :
    '\\' ∉ directoryText span := by
  rw [directoryText, List.mem_append, not_or]
  exact ⟨(span_no_backslash found).1, by decide⟩

theorem modules_directory_text {span : ModuleSpan}
    (found : Path.moduleSpan? (unifySlashes consumer.toList) = some span) :
    (modulesDirectory consumer).toList = normalText (directoryText span) := by
  simp only [modulesDirectory, found]
  rw [Path.normalize, String.toList_ofList, String.toList_ofList, ← directoryText,
    unify_of_free (directory_no_backslash found)]

theorem owner_of_place_text {path : String} {directory : Chars} {name base : Segment}
    (text : path.toList = placeText directory name base) (free : '/' ∉ name) (baseFree : '/' ∉ base)
    (noBack : '\\' ∉ placeText directory name base) :
    ownerOf path = ownerAmong ((splitSlash directory).tail ++ [name, queriesName, base]) := by
  rw [← text] at noBack
  rw [owner_of_plain_text noBack, text, split_place directory free baseFree,
    List.tail_append_of_ne_nil (Path.split_ne_nil _)]

/-- The owner that the place shows which is suggested to a module. -/
theorem owner_of_module_place {span : ModuleSpan}
    (found : Path.moduleSpan? (unifySlashes consumer.toList) = some span) (query : String) :
    ownerOf (modulesDirectory consumer ++ "/" ++ String.ofList span.name ++ "/graphql/" ++
        Path.lastSegment query) =
      ownerAmong (keptBelow (directoryText span) ++
        [span.name, queriesName, (Path.lastSegment query).toList]) := by
  obtain ⟨baseFree, baseNoBack⟩ := last_segment_free query
  have text : (modulesDirectory consumer ++ "/" ++ String.ofList span.name ++ "/graphql/" ++
      Path.lastSegment query).toList =
        placeText (normalText (directoryText span)) span.name
          (Path.lastSegment query).toList := by
    simp only [String.toList_append, String.toList_ofList, modules_directory_text found,
      List.append_assoc]
    rfl
  have noBack : '\\' ∉ normalText (directoryText span) := fun member =>
    directory_no_backslash found (Path.mem_of_mem_normal_text (by decide) (by decide) member)
  obtain ⟨blanks, blank, parts⟩ := Path.normal_text_split (directoryText span)
  rw [owner_of_place_text text (Path.module_span_text found).free baseFree
    (place_no_backslash noBack (span_no_backslash found).2 baseNoBack), parts, List.append_assoc,
    owner_among_blanks blanks _ blank]

theorem owner_among_module {segments : List Segment} {name : Segment} :
    ownerAmong segments = .module (String.ofList name) ↔ moduleAmong? segments = some name := by
  rw [ownerAmong]
  cases moduleAmong? segments with
  | some other => simp [String.ofList_inj]
  | none =>
      refine iff_of_false ?_ (by simp)
      dsimp only
      split
      · simp
      · split <;> simp

/-- The place that is suggested to a module is the module's own exactly if the first `modules` on the
way there holds the module. -/
theorem module_place_own_iff {span : ModuleSpan}
    (found : Path.moduleSpan? (unifySlashes consumer.toList) = some span) (query : String) :
    ownerOf (modulesDirectory consumer ++ "/" ++ String.ofList span.name ++ "/graphql/" ++
        Path.lastSegment query) = .module (String.ofList span.name) ↔
      FirstHolds span.name (keptBelow (directoryText span)) := by
  have solid : ∀ directory ∈ keptBelow (directoryText span), directory ≠ [] :=
    fun directory member => (Path.mem_kept_below member).2.1
  rw [owner_of_module_place found, owner_among_module,
    module_of_place_iff _ (Path.module_span_text found).named solid]

/-- What is suggested to platform and layout code is theirs. -/
theorem owner_of_other_place {owner : Owner} (other : owner = .platform ∨ owner = .layout)
    (query : String) :
    ownerOf ("app/" ++ owner.word ++ "/graphql/" ++ Path.lastSegment query) = owner := by
  obtain ⟨baseFree, baseNoBack⟩ := last_segment_free query
  have place (word : Segment) (free : '/' ∉ word) (noBack : '\\' ∉ word) :
      ownerOf ("app/" ++ String.ofList word ++ "/graphql/" ++ Path.lastSegment query) =
        ownerAmong [word, queriesName, (Path.lastSegment query).toList] := by
    have text : ("app/" ++ String.ofList word ++ "/graphql/" ++ Path.lastSegment query).toList =
        placeText "app".toList word (Path.lastSegment query).toList := by
      simp only [String.toList_append, String.toList_ofList, List.append_assoc]
      rfl
    rw [owner_of_place_text text free baseFree
      (place_no_backslash (by decide) noBack baseNoBack)]
    rfl
  have unowned (word : Segment) (named : word ≠ modulesName) :
      moduleAmong? [word, queriesName, (Path.lastSegment query).toList] = none := by
    rw [Path.module_among_other _ named, Path.module_among_other _ (by decide),
      Path.module_among_last]
  rcases other with rfl | rfl
  · have owned := place "platform".toList (by decide) (by decide)
    rw [ownerAmong, unowned _ (by decide)] at owned
    exact owned
  · have owned := place "layout".toList (by decide) (by decide)
    rw [ownerAmong, unowned _ (by decide)] at owned
    exact owned

/-! ### Verdicts on moved queries -/

/-- A suggested move is one of a module, away from another one, or one of platform or layout code. -/
inductive Suggested (consumer query target : String) : Prop
  | toModule (span : ModuleSpan) (other : String)
      (found : Path.moduleSpan? (unifySlashes consumer.toList) = some span)
      (owner : ownerOf query = .module other) (differs : String.ofList span.name ≠ other)
      (place : target = modulesDirectory consumer ++ "/" ++ String.ofList span.name ++
        "/graphql/" ++ Path.lastSegment query)
  | toOther (name : String) (owned : ownerOf consumer = .platform ∨ ownerOf consumer = .layout)
      (owner : ownerOf query = .module name)
      (place : target = "app/" ++ (ownerOf consumer).word ++ "/graphql/" ++
        Path.lastSegment query)

theorem span_of_owner {name : String} (owned : ownerOf consumer = .module name) :
    ∃ span, Path.moduleSpan? (unifySlashes consumer.toList) = some span ∧
      String.ofList span.name = name := by
  unfold ownerOf at owned
  dsimp only at owned
  split at owned
  · rename_i span found
    exact ⟨span, found, Owner.module.inj owned⟩
  · split at owned
    · cases owned
    · split at owned <;> cases owned

theorem move_suggested (suggested : .move target rationale ∈ (judge consumer query allowlist).fixes) :
    Suggested consumer query target := by
  unfold judge at suggested
  cases owned : ownerOf consumer with
  | «module» name =>
      cases asked : ownerOf query with
      | «module» other =>
          simp only [owned, asked] at suggested
          split at suggested
          · cases suggested
          · rename_i differs
            obtain ⟨span, found, rfl⟩ := span_of_owner owned
            simp only [crossModule, List.mem_singleton, Fix.move.injEq] at suggested
            exact .toModule span other found asked differs suggested.1
      | platform | layout | unknown =>
          simp only [owned, asked] at suggested
          split at suggested <;> simp [sharedQuery, pass] at suggested
  | platform | layout =>
      cases asked : ownerOf query with
      | «module» name =>
          simp only [owned, asked, platformModule, List.mem_singleton, Fix.move.injEq] at suggested
          exact .toOther name (by simp [owned]) asked (owned ▸ suggested.1)
      | platform | layout | unknown => simp [owned, asked, pass] at suggested
  | unknown => simp [owned, unknownConsumer] at suggested

/-- What is due from a suggested move: the moved query passes without a violation, and if it was
another module's it is the consumer's own then. -/
structure Settles (consumer query target : String) (allowlist : List String) : Prop where
  status : (judge consumer target allowlist).status = .pass
  violations : (judge consumer target allowlist).violations = []
  owner : "CROSS_MODULE_QUERY" ∈ (judge consumer query allowlist).codes →
    ownerOf target = ownerOf consumer

/-- A query with the consumer's known owner passes. -/
theorem own_passes (known : ownerOf consumer ≠ .unknown) (own : ownerOf target = ownerOf consumer)
    (allowlist : List String) :
    judge consumer target allowlist = pass (ownerOf consumer) := by
  unfold judge
  rw [own]
  cases owned : ownerOf consumer with
  | «module» name => simp
  | platform | layout => rfl
  | unknown => exact absurd owned known

theorem own_settles (known : ownerOf consumer ≠ .unknown) (own : ownerOf target = ownerOf consumer)
    (query : String) (allowlist : List String) : Settles consumer query target allowlist := by
  have passes := own_passes known own allowlist
  exact ⟨by rw [passes]; rfl, by rw [passes]; rfl, fun _ => own⟩

theorem owner_of_span {span : ModuleSpan}
    (found : Path.moduleSpan? (unifySlashes consumer.toList) = some span) :
    ownerOf consumer = .module (String.ofList span.name) := by
  simp only [ownerOf, found]

/-- A suggested move settles the verdict exactly if the first `modules` on the way to the suggested
place holds the consumer's module; that is, in all cases but for a consumer whose path shows another
`modules` there, or none, once its segments are collapsed. -/
theorem move_settles_iff
    (suggested : .move target rationale ∈ (judge consumer query allowlist).fixes) :
    Settles consumer query target allowlist ↔
      ∀ span, Path.moduleSpan? (unifySlashes consumer.toList) = some span →
        FirstHolds span.name (keptBelow (directoryText span)) := by
  cases move_suggested suggested with
  | toModule span other found asked differs place =>
      have owned := owner_of_span found
      have ruling := judge_ruling consumer query allowlist
      have intrudes : Intrudes (ownerOf consumer) (ownerOf query) := by
        rw [owned, asked]
        exact ⟨by simp, other, rfl, by simpa using differs⟩
      have told : "CROSS_MODULE_QUERY" ∈ (judge consumer query allowlist).codes := by
        rw [ruling.codes, ruling.fail.2 intrudes, owned]
        exact List.mem_singleton.2 rfl
      constructor
      · intro settles other found'
        rw [found] at found'
        obtain rfl := Option.some.inj found'
        rw [← module_place_own_iff found query, ← place, ← owned]
        exact settles.owner told
      · intro holds
        have own := (module_place_own_iff found query).2 (holds span found)
        rw [← place, ← owned] at own
        exact own_settles (by simp [owned]) own query allowlist
  | toOther name owned asked place =>
      refine iff_of_true ?_ ?_
      · have own := owner_of_other_place owned query
        rw [← place] at own
        refine own_settles ?_ own query allowlist
        rcases owned with platform | layout
        · simp [platform]
        · simp [layout]
      · intro span found
        rw [owner_of_span found] at owned
        rcases owned with platform | layout
        · cases platform
        · cases layout

/-- A suggested place has the consumer's own directory in front, and the move settles the verdict. -/
theorem prefixed_move_settles :
    let consumer := "a/./b//modules/c/x.tsx"
    let query := "b/modules/d/y.gql.ts"
    let target := "a/b/modules/c/graphql/y.gql.ts"
    (∃ rationale, .move target rationale ∈ (judge consumer query []).fixes) ∧
      Settles consumer query target [] := by
  intro consumer query target
  have suggested : .move target
      "Move query into the consuming module's graphql directory to maintain module boundaries" ∈
        (judge consumer query []).fixes := by decide +kernel +revert
  have read : Path.moduleSpan? (unifySlashes consumer.toList) =
      some ⟨"a/./b/".toList, ['c']⟩ := by decide +kernel +revert
  have kept : keptBelow (directoryText ⟨"a/./b/".toList, ['c']⟩) = [['b'], modulesName] := by
    decide +kernel
  refine ⟨⟨_, suggested⟩, (move_settles_iff suggested).2 ?_⟩
  intro span found
  rw [read] at found
  obtain rfl := Option.some.inj found
  rw [kept]
  exact ⟨[['b']], [], rfl, by decide⟩

/-- A doubled slash keeps the consumer from being owned by the first `modules`. It is gone from the
suggested place, where that `modules` counts, so the moved query is refused once more. -/
theorem doubled_slash_move_refused :
    let consumer := "a/modules//modules/b/x.tsx"
    let query := "a/modules/c/y.gql.ts"
    let target := "a/modules/modules/b/graphql/y.gql.ts"
    (∃ rationale, .move target rationale ∈ (judge consumer query []).fixes) ∧
      (judge consumer target []).status = .fail ∧ ownerOf target ≠ ownerOf consumer := by
  intro consumer query target
  have suggested : .move target
      "Move query into the consuming module's graphql directory to maintain module boundaries" ∈
        (judge consumer query []).fixes := by decide +kernel +revert
  refine ⟨⟨_, suggested⟩, ?_, ?_⟩
  · decide +kernel +revert
  · decide +kernel +revert

end StorefrontSurvey.Placement
