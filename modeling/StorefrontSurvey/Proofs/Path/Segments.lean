import Mathlib.Data.List.TakeWhile
import StorefrontSurvey.Proofs.Path.Names
/-!
What is searched for in the text of a path, told by its segments. A directory between two slashes is
a segment that is neither the first nor the last one, and the module that a path enters is the one
whose name follows the first such segment `modules`. The normal form of a path splits into its
collapsed segments.
-/
namespace StorefrontSurvey.Path

/-! ### Texts and their segments -/

theorem join_split (text : Chars) : joinSlash (splitSlash text) = text := by
  induction text with
  | nil => rfl
  | cons c rest ih =>
      obtain ⟨first, more, parts⟩ := List.exists_cons_of_ne_nil (split_ne_nil rest)
      rw [parts] at ih
      by_cases slash : c = '/'
      · simp [splitSlash, slash, parts, joinSlash, ih]
      · cases more with
        | nil => simpa [splitSlash, slash, parts, joinSlash] using ih
        | cons second others => simpa [splitSlash, slash, parts, joinSlash] using ih

theorem split_slash_cons (rest : Chars) : splitSlash ('/' :: rest) = [] :: splitSlash rest := by
  simp [splitSlash]

/-- What stands before the first slash does not matter to the segments after it. -/
theorem split_tail_cons {c : Char} (rest : Chars) (noSlash : c ≠ '/') :
    (splitSlash (c :: rest)).tail = (splitSlash rest).tail := by
  obtain ⟨first, more, parts⟩ := List.exists_cons_of_ne_nil (split_ne_nil rest)
  simp [splitSlash, noSlash, parts]

theorem split_append_slash (text rest : Chars) :
    splitSlash (text ++ '/' :: rest) = splitSlash text ++ splitSlash rest := by
  have joined := split_join_slash (splitSlash text) rest (split_slash_free text)
    (split_ne_nil text)
  rwa [join_split] at joined

/-- A text goes on with a segment and a slash exactly if that is the first of its segments, and not
the only one. -/
theorem split_cons_iff {segment : Segment} {text : Chars} {more : List Segment}
    (free : '/' ∉ segment) (present : more ≠ []) :
    splitSlash text = segment :: more ↔
      ∃ after, text = segment ++ '/' :: after ∧ splitSlash after = more := by
  constructor
  · intro parts
    have moreFree : SlashFree more := by
      have all := split_slash_free text
      rw [parts] at all
      exact (slash_free_cons all).2
    refine ⟨joinSlash more, ?_, split_join more moreFree present⟩
    rw [← join_split text, parts]
    obtain ⟨second, others, rfl⟩ := List.exists_cons_of_ne_nil present
    rfl
  · rintro ⟨after, rfl, parts⟩
    rw [split_segment_slash segment after free, parts]

/-- A segment between two slashes, at the front of a text. -/
theorem prefix_slashed_iff {segment : Segment} {rest : Chars} {first : Segment}
    {more : List Segment} (free : '/' ∉ segment) (parts : splitSlash rest = first :: more) :
    ('/' :: (segment ++ ['/'])).isPrefixOf ('/' :: rest) = true ↔ first = segment ∧ more ≠ [] := by
  rw [List.isPrefixOf_iff_prefix]
  constructor
  · rintro ⟨after, written⟩
    have text : rest = segment ++ '/' :: after := by simpa using written.symm
    rw [text, split_segment_slash segment after free, List.cons.injEq] at parts
    exact ⟨parts.1.symm, parts.2 ▸ split_ne_nil after⟩
  · rintro ⟨rfl, present⟩
    obtain ⟨after, rfl, _⟩ := (split_cons_iff free present).1 parts
    exact ⟨after, by simp⟩

theorem prefix_slashed_other {c : Char} (segment : Segment) (rest : Chars) (noSlash : c ≠ '/') :
    ('/' :: (segment ++ ['/'])).isPrefixOf (c :: rest) = false := by
  simp [List.isPrefixOf, Ne.symm noSlash]

/-- A directory occurs in a text exactly if it is a segment that is neither the first nor the last
one. -/
theorem occurs_in_slashed_iff (segment : Segment) (text : Chars) (free : '/' ∉ segment) :
    Text.occursIn ('/' :: (segment ++ ['/'])) text = true ↔
      segment ∈ (splitSlash text).tail.dropLast := by
  induction text with
  | nil => simp [Text.occursIn, splitSlash]
  | cons c rest ih =>
      obtain ⟨first, more, parts⟩ := List.exists_cons_of_ne_nil (split_ne_nil rest)
      rw [Text.occursIn, Bool.or_eq_true, ih]
      by_cases slash : c = '/'
      · rw [slash, prefix_slashed_iff free parts, split_slash_cons, parts]
        cases more with
        | nil => simp
        | cons second others => simp [eq_comm]
      · rw [prefix_slashed_other segment rest slash, split_tail_cons rest slash]
        simp

/-! ### Backslashes -/

theorem unify_free (path : Chars) : '\\' ∉ unifySlashes path := by
  intro member
  obtain ⟨c, _, same⟩ := List.mem_map.1 member
  by_cases back : c = '\\' <;> simp_all

theorem unify_of_free {path : Chars} (free : '\\' ∉ path) : unifySlashes path = path := by
  have same : ∀ c ∈ path, (if c = '\\' then '/' else c) = c := by
    intro c member
    rw [if_neg]
    rintro rfl
    exact free member
  exact (List.map_congr_left same).trans (List.map_id' path)

/-! ### Module directories -/

def modulesName : Segment := "modules".toList

/-- The directory that segments start with: a name with a segment after it. -/
def leadingDirectory? : List Segment → Option Segment
  | name :: _ :: _ => if name = [] then none else some name
  | _ => none

/-- The name of the first directory that stands in a directory `modules`. -/
def moduleAmong? : List Segment → Option Segment
  | [] => none
  | first :: rest =>
    (if first = modulesName then leadingDirectory? rest else none).or (moduleAmong? rest)

theorem module_among_other {first : Segment} (rest : List Segment) (other : first ≠ modulesName) :
    moduleAmong? (first :: rest) = moduleAmong? rest := by
  rw [moduleAmong?, if_neg other, Option.none_or]

theorem module_among_modules {name : Segment} {more : List Segment} (named : name ≠ [])
    (present : more ≠ []) : moduleAmong? (modulesName :: name :: more) = some name := by
  obtain ⟨second, others, rfl⟩ := List.exists_cons_of_ne_nil present
  rw [moduleAmong?, if_pos rfl, leadingDirectory?, if_neg named, Option.some_or]

theorem module_among_last (last : Segment) : moduleAmong? [last] = none := by
  simp [moduleAmong?, leadingDirectory?]

theorem modules_mark_eq : modulesMark = '/' :: (modulesName ++ ['/']) := rfl

theorem modules_name_free : '/' ∉ modulesName := by decide

theorem take_first_segment (segment : Segment) (rest : Chars) (free : '/' ∉ segment) :
    (segment ++ '/' :: rest).takeWhile (· ≠ '/') = segment := by
  have all : ∀ c ∈ segment, decide (c ≠ '/') = true := by
    intro c member
    rw [decide_eq_true_iff]
    rintro rfl
    exact free member
  rw [List.takeWhile_append_of_pos all]
  simp

/-- The name that is read off a text up to its first slash. -/
theorem leading_directory_eq (text : Chars) :
    (if text.takeWhile (· ≠ '/') ≠ [] ∧ (text.takeWhile (· ≠ '/')).length < text.length then
        some (text.takeWhile (· ≠ '/')) else none) = leadingDirectory? (splitSlash text) := by
  obtain ⟨first, more, parts⟩ := List.exists_cons_of_ne_nil (split_ne_nil text)
  have free : '/' ∉ first := by
    have all := split_slash_free text
    rw [parts] at all
    exact (slash_free_cons all).1
  rw [parts]
  cases more with
  | nil =>
      have alone : text = first := by
        rw [← join_split text, parts]
        rfl
      have whole : text.takeWhile (· ≠ '/') = text := by
        rw [List.takeWhile_eq_self_iff]
        intro c member
        rw [decide_eq_true_iff]
        rintro rfl
        exact free (alone ▸ member)
      rw [whole]
      simp [leadingDirectory?]
  | cons second others =>
      obtain ⟨after, rfl, _⟩ := (split_cons_iff free (by simp)).1 parts
      rw [take_first_segment first after free]
      by_cases empty : first = []
      · simp [leadingDirectory?, empty]
      · simp [leadingDirectory?, empty]

/-- The module directory that a text starts with. -/
def spanHere? (text : Chars) : Option ModuleSpan :=
  if modulesMark.isPrefixOf text then
    let after := text.drop modulesMark.length
    let name := after.takeWhile (· ≠ '/')
    if name ≠ [] ∧ name.length < after.length then some ⟨[], name⟩ else none
  else none

theorem module_span_cons (c : Char) (rest : Chars) :
    moduleSpan? (c :: rest) = (spanHere? (c :: rest)).or
      ((moduleSpan? rest).map fun span => { span with before := c :: span.before }) := by
  rw [moduleSpan?]
  cases here : spanHere? (c :: rest) with
  | some span =>
      rw [spanHere?] at here
      rw [here]
      rfl
  | none =>
      rw [spanHere?] at here
      rw [here]
      rfl

theorem span_here_other {c : Char} (rest : Chars) (noSlash : c ≠ '/') :
    spanHere? (c :: rest) = none := by
  rw [spanHere?, modules_mark_eq, prefix_slashed_other modulesName rest noSlash]
  rfl

theorem span_here_name {rest : Chars} {first : Segment} {more : List Segment}
    (parts : splitSlash rest = first :: more) :
    (spanHere? ('/' :: rest)).map ModuleSpan.name =
      if first = modulesName then leadingDirectory? more else none := by
  by_cases mark : ('/' :: (modulesName ++ ['/'])).isPrefixOf ('/' :: rest) = true
  · obtain ⟨rfl, present⟩ := (prefix_slashed_iff modules_name_free parts).1 mark
    obtain ⟨after, rfl, same⟩ := (split_cons_iff modules_name_free present).1 parts
    have dropped : ('/' :: (modulesName ++ '/' :: after)).drop
        ('/' :: (modulesName ++ ['/'])).length = after := rfl
    rw [if_pos rfl, ← same, ← leading_directory_eq after, spanHere?, modules_mark_eq, if_pos mark]
    simp only [dropped]
    split <;> rfl
  · rw [spanHere?, modules_mark_eq, if_neg mark]
    rw [prefix_slashed_iff modules_name_free parts, not_and, not_not] at mark
    by_cases named : first = modulesName
    · rw [if_pos named, mark named]
      rfl
    · rw [if_neg named]
      rfl

/-- The module that a text enters is told by its segments. -/
theorem module_span_name (text : Chars) :
    (moduleSpan? text).map ModuleSpan.name = moduleAmong? (splitSlash text).tail := by
  induction text with
  | nil => rfl
  | cons c rest ih =>
      have onward : ((moduleSpan? rest).map fun span => { span with before := c :: span.before }).map
          ModuleSpan.name = moduleAmong? (splitSlash rest).tail := by
        rw [← ih, Option.map_map]
        rfl
      rw [module_span_cons, Option.map_or, onward]
      by_cases slash : c = '/'
      · obtain ⟨first, more, parts⟩ := List.exists_cons_of_ne_nil (split_ne_nil rest)
        rw [slash, span_here_name parts, split_slash_cons, parts]
        rfl
      · rw [span_here_other rest slash, split_tail_cons rest slash]
        rfl

theorem leading_directory_some {segments : List Segment} {name : Segment}
    (leads : leadingDirectory? segments = some name) :
    name ≠ [] ∧ ∃ more, more ≠ [] ∧ segments = name :: more := by
  match segments with
  | [] => cases leads
  | [_] => cases leads
  | first :: second :: others =>
      rw [leadingDirectory?] at leads
      split at leads
      · cases leads
      · rename_i named
        obtain rfl := Option.some.inj leads
        exact ⟨named, second :: others, by simp, rfl⟩

/-- What a module directory is read from: its name stands between slashes after `/modules`. -/
structure SpanText (span : ModuleSpan) (text : Chars) : Prop where
  named : span.name ≠ []
  free : '/' ∉ span.name
  text_eq : ∃ after, text =
    span.before ++ '/' :: (modulesName ++ '/' :: (span.name ++ '/' :: after))

theorem span_here_text {text : Chars} {span : ModuleSpan} (here : spanHere? text = some span) :
    SpanText span text := by
  unfold spanHere? at here
  split at here
  · rename_i mark
    obtain ⟨rest, rfl⟩ := List.isPrefixOf_iff_prefix.1 mark
    rw [List.drop_left] at here
    dsimp only at here
    have leads : leadingDirectory? (splitSlash rest) = some span.name := by
      rw [← leading_directory_eq]
      split at here
      · rename_i holds
        rw [if_pos holds, ← Option.some.inj here]
      · cases here
    have before : span.before = [] := by
      split at here
      · rw [← Option.some.inj here]
      · cases here
    obtain ⟨named, more, present, parts⟩ := leading_directory_some leads
    have free : '/' ∉ span.name := split_slash_free rest _ (by rw [parts]; exact List.mem_cons_self)
    obtain ⟨after, rfl, _⟩ := (split_cons_iff free present).1 parts
    refine ⟨named, free, after, ?_⟩
    rw [before, modules_mark_eq]
    simp
  · cases here

theorem module_span_text {text : Chars} {span : ModuleSpan}
    (found : moduleSpan? text = some span) : SpanText span text := by
  induction text generalizing span with
  | nil => cases found
  | cons c rest ih =>
      rw [module_span_cons, Option.or_eq_some_iff] at found
      rcases found with here | ⟨_, later⟩
      · exact span_here_text here
      · obtain ⟨inner, found, rfl⟩ := Option.map_eq_some_iff.1 later
        obtain ⟨named, free, after, text⟩ := ih found
        exact ⟨named, free, after, by rw [text, List.cons_append]⟩

/-- Empty segments in front hide no module. -/
theorem module_among_blanks (blanks segments : List Segment) (blank : ∀ s ∈ blanks, s = []) :
    moduleAmong? (blanks ++ segments) = moduleAmong? segments := by
  induction blanks with
  | nil => rfl
  | cons first more ih =>
      obtain ⟨rfl, moreBlank⟩ := List.forall_mem_cons.1 blank
      rw [List.cons_append, module_among_other _ (by decide), ih moreBlank]

theorem mem_drop_last_blanks {segment : Segment} (blanks segments : List Segment)
    (blank : ∀ s ∈ blanks, s = []) (named : segment ≠ []) :
    segment ∈ (blanks ++ segments).dropLast ↔ segment ∈ segments.dropLast := by
  have notBlank : segment ∉ blanks := fun member => named (blank segment member)
  cases segments with
  | nil =>
      rw [List.append_nil]
      exact ⟨fun member => absurd ((List.dropLast_prefix _).subset member) notBlank, by simp⟩
  | cons first more =>
      rw [List.dropLast_append_of_ne_nil (by simp), List.mem_append]
      simp [notBlank]

/-! ### Normal forms -/

/-- The segments after the first slash of a normal form. -/
def keptBelow (path : Chars) : List Segment :=
  let kept := collapse (leadingSlashes path ≠ 0) (splitSlash path)
  if leadingSlashes path = 0 then kept.tail else kept

theorem mem_kept_below {path : Chars} {segment : Segment} (member : segment ∈ keptBelow path) :
    segment ∈ splitSlash path ∧ segment ≠ [] ∧ segment ≠ dot := by
  unfold keptBelow at member
  dsimp only at member
  split at member
  · exact mem_collapse (List.mem_of_mem_tail member)
  · exact mem_collapse member

theorem leading_slashes_cases (path : Chars) :
    leadingSlashes path = 0 ∨ leadingSlashes path = 1 ∨ leadingSlashes path = 2 := by
  unfold leadingSlashes
  split <;> simp

theorem join_ne_nil {segments : List Segment} (present : segments ≠ [])
    (solid : ∀ segment ∈ segments, segment ≠ []) : joinSlash segments ≠ [] := by
  obtain ⟨first, more, rfl⟩ := List.exists_cons_of_ne_nil present
  have firstSolid := solid first List.mem_cons_self
  cases more <;> simp [joinSlash, firstSolid]

/-- The segments of collapsed segments are the same; there is an empty one if there are none. -/
theorem split_join_collapsed (rooted : Bool) (path : Chars) :
    let kept := collapse rooted (splitSlash path)
    splitSlash (joinSlash kept) = if kept = [] then [[]] else kept := by
  intro kept
  have free : SlashFree kept := fun segment member =>
    split_slash_free path segment (mem_collapse member).1
  split
  · rename_i none
    rw [none]
    rfl
  · rename_i present
    exact split_join kept free present

/-- A normal form splits into the collapsed segments, after empty ones for slashes in front. -/
theorem normal_text_split (path : Chars) :
    ∃ blanks, (∀ segment ∈ blanks, segment = []) ∧
      (splitSlash (normalText path)).tail = blanks ++ keptBelow path := by
  have split := split_join_collapsed (decide (leadingSlashes path ≠ 0)) path
  have solid : joinSlash (collapse (decide (leadingSlashes path ≠ 0)) (splitSlash path)) = [] →
      collapse (decide (leadingSlashes path ≠ 0)) (splitSlash path) = [] := by
    intro none
    by_contra present
    exact join_ne_nil present (fun segment member => (mem_collapse member).2.1) none
  unfold normalText keptBelow
  dsimp only
  generalize collapse (decide (leadingSlashes path ≠ 0)) (splitSlash path) = kept at split solid ⊢
  have rooted : ∃ blanks : List Segment, (∀ segment ∈ blanks, segment = []) ∧
      splitSlash (joinSlash kept) = blanks ++ kept := by
    by_cases none : kept = []
    · exact ⟨[[]], by simp, by rw [none]; rfl⟩
    · exact ⟨[], by simp, by simp [split, none]⟩
  obtain ⟨blanks, blank, parts⟩ := rooted
  rcases leading_slashes_cases path with relative | single | double
  · rw [relative, if_pos rfl, List.replicate_zero, List.nil_append]
    refine ⟨[], by simp, ?_⟩
    by_cases none : kept = []
    · simp [none, joinSlash, dot, splitSlash]
    · rw [if_neg (none ∘ solid), split, if_neg none, List.nil_append]
  · rw [single]
    refine ⟨blanks, blank, ?_⟩
    simp [split_slash_cons, parts]
  · rw [double]
    refine ⟨[] :: blanks, List.forall_mem_cons.2 ⟨rfl, blank⟩, ?_⟩
    simp [List.replicate, split_slash_cons, parts]

/-- A normal form holds no character that the path does not, apart from slashes and dots. -/
theorem mem_of_mem_normal_text {c : Char} {path : Chars} (noSlash : c ≠ '/') (noDot : c ≠ '.')
    (member : c ∈ normalText path) : c ∈ path := by
  have fromKept {rooted : Bool}
      (within : c ∈ joinSlash (collapse rooted (splitSlash path))) : c ∈ path := by
    obtain ⟨segment, kept, holds⟩ := (mem_join _ noSlash).1 within
    exact mem_of_mem_split (mem_collapse kept).1 holds
  unfold normalText at member
  dsimp only at member
  split at member
  · exact absurd (List.mem_singleton.1 member) noDot
  · rcases List.mem_append.1 member with front | within
    · exact absurd (List.eq_of_mem_replicate front) noSlash
    · exact fromKept within

theorem normalize_chars (path : String) :
    (normalize path).toList = normalText (unifySlashes path.toList) := String.toList_ofList

theorem normalize_no_backslash (path : String) : '\\' ∉ (normalize path).toList := by
  rw [normalize_chars]
  intro member
  exact unify_free path.toList (mem_of_mem_normal_text (by decide) (by decide) member)

theorem unify_normalize (path : String) :
    unifySlashes (normalize path).toList = normalText (unifySlashes path.toList) := by
  rw [unify_of_free (normalize_no_backslash path), normalize_chars]

/-- Names, at least one, after a slash or none. -/
def Plain (path : Chars) : Prop :=
  ∃ location, Names location ∧ location ≠ [] ∧
    (path = joinSlash location ∨ path = '/' :: joinSlash location)

theorem join_head_ne_slash {location : Location} (names : Names location)
    (present : location ≠ []) : (joinSlash location).head? ≠ some '/' := by
  obtain ⟨first, more, rfl⟩ := List.exists_cons_of_ne_nil present
  have isName := names first List.mem_cons_self
  obtain ⟨c, rest, rfl⟩ := List.exists_cons_of_ne_nil isName.ne_nil
  have noSlash : c ≠ '/' := by
    rintro rfl
    exact isName.no_slash List.mem_cons_self
  cases more <;> simp [joinSlash, noSlash]

theorem leading_slashes_of_head {path : Chars} (relative : path.head? ≠ some '/') :
    leadingSlashes path = 0 ∧ leadingSlashes ('/' :: path) = 1 := by
  cases path with
  | nil => exact ⟨rfl, rfl⟩
  | cons c rest =>
      have noSlash : c ≠ '/' := by simpa using relative
      constructor
      · unfold leadingSlashes
        split <;> simp_all
      · unfold leadingSlashes
        split <;> simp_all

/-- A plain path is its own normal form. -/
theorem normal_text_plain {path : Chars} (plain : Plain path) : normalText path = path := by
  obtain ⟨location, names, present, written⟩ := plain
  have free := names_slash_free names
  have filled : joinSlash location ≠ [] :=
    join_ne_nil present fun segment member => (names segment member).ne_nil
  obtain ⟨relative, rooted⟩ := leading_slashes_of_head (join_head_ne_slash names present)
  rcases written with rfl | rfl
  · simp [normalText, relative, split_join location free present, collapse_of_names _ names,
      filled]
  · have skipped : collapse true ([] :: location) = collapse true location := rfl
    have kept := skipped.trans (collapse_of_names true names)
    simp [normalText, rooted, split_slash_cons, split_join location free present, kept]

end StorefrontSurvey.Path
