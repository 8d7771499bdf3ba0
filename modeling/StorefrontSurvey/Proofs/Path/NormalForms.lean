import StorefrontSurvey.Proofs.Path.Ways
/-!
Normal forms. What is left of a path when its segments are collapsed is nothing, names from the top,
or some steps up and names after them. Texts of these kinds, and no others, are their own normal
forms.
-/
namespace StorefrontSurvey.Path

/-! ### Collapsed segments -/

theorem push_skip (rooted : Bool) (kept : List Segment) {segment : Segment}
    (skipped : segment = [] ∨ segment = dot) : pushSegment rooted kept segment = kept := by
  unfold pushSegment
  rw [if_pos skipped]

theorem push_up_name (rooted : Bool) {top : Segment} (below : List Segment)
    (named : top ≠ dotDot) : pushSegment rooted (top :: below) dotDot = below := by
  have climbs : ¬(dotDot = [] ∨ dotDot = dot) := by decide
  unfold pushSegment
  rw [if_neg climbs, if_pos rfl]
  exact if_neg named

theorem push_up_again (ups : Nat) :
    pushSegment false (List.replicate ups dotDot) dotDot = List.replicate (ups + 1) dotDot := by
  cases ups <;> simp [pushSegment, List.replicate_succ, dotDot, dot]

/-- What is kept of a relative path, the last segment first: names, with `..` below them only. -/
def NamesOverUps (kept : List Segment) : Prop :=
  ∃ names ups, Names names ∧ kept = names ++ List.replicate ups dotDot

theorem push_names_over_ups {kept : List Segment} {segment : Segment} (free : '/' ∉ segment)
    (shape : NamesOverUps kept) : NamesOverUps (pushSegment false kept segment) := by
  obtain ⟨names, ups, named, rfl⟩ := shape
  rcases segment_cases segment free with skipped | rfl | isName
  · rw [push_skip false _ skipped]
    exact ⟨names, ups, named, rfl⟩
  · cases names with
    | nil => exact ⟨[], ups + 1, named, push_up_again ups⟩
    | cons top below =>
        obtain ⟨topName, belowNamed⟩ := List.forall_mem_cons.1 named
        exact ⟨below, ups, belowNamed, push_up_name false _ topName.ne_dotDot⟩
  · rw [push_name false _ isName]
    exact ⟨segment :: names, ups, List.forall_mem_cons.2 ⟨isName, named⟩, rfl⟩

theorem push_all_names_over_ups {segments kept : List Segment} (free : SlashFree segments)
    (shape : NamesOverUps kept) : NamesOverUps (segments.foldl (pushSegment false) kept) := by
  induction segments generalizing kept with
  | nil => exact shape
  | cons first rest ih =>
      obtain ⟨firstFree, restFree⟩ := slash_free_cons free
      exact ih restFree (push_names_over_ups firstFree shape)

/-- Where there is no top, some `..` and then names are left. -/
theorem collapse_relative {segments : List Segment} (free : SlashFree segments) :
    ∃ ups names, Names names ∧ collapse false segments = List.replicate ups dotDot ++ names := by
  have start : NamesOverUps [] := ⟨[], 0, by simp [Names], rfl⟩
  obtain ⟨names, ups, named, kept⟩ := push_all_names_over_ups free start
  refine ⟨ups, names.reverse, fun name member => named name (List.mem_reverse.1 member), ?_⟩
  rw [collapse, kept, List.reverse_append, List.reverse_replicate]

theorem push_ups (ups : Nat) :
    (List.replicate ups dotDot).foldl (pushSegment false) [] = List.replicate ups dotDot := by
  induction ups with
  | zero => rfl
  | succ ups ih =>
      rw [List.replicate_succ', List.foldl_append, ih, List.foldl_cons, List.foldl_nil,
        push_up_again, List.replicate_succ']

theorem collapse_ups_names (ups : Nat) {names : Location} (named : Names names) :
    collapse false (List.replicate ups dotDot ++ names) = List.replicate ups dotDot ++ names := by
  rw [collapse, List.foldl_append, push_ups, push_names false _ named, List.reverse_append,
    List.reverse_reverse, List.reverse_replicate]

/-! ### Texts -/

/-- The normal form of a path from the top keeps one slash in front, or two. -/
theorem normal_text_rooted {path : Chars} (rooted : leadingSlashes path ≠ 0) :
    normalText path =
      (⟨collapse true (splitSlash path), leadingSlashes path = 2⟩ : Absolute).chars := by
  rcases leading_slashes_cases path with relative | single | double
  · exact absurd relative rooted
  · simp [normalText, Absolute.chars, single]
  · simp [normalText, Absolute.chars, double, List.replicate]

theorem normal_text_relative {path : Chars} (relative : leadingSlashes path = 0) :
    normalText path = if collapse false (splitSlash path) = [] then dot
      else joinSlash (collapse false (splitSlash path)) := by
  have solid : ∀ segment ∈ collapse false (splitSlash path), segment ≠ [] :=
    fun segment member => (mem_collapse member).2.1
  by_cases none : collapse false (splitSlash path) = []
  · simp [normalText, relative, none, joinSlash]
  · simp [normalText, relative, none, join_ne_nil none solid]

/-- The texts that paths are normalised to. -/
inductive NormalForm : Chars → Prop
  | here : NormalForm dot
  | rooted (path : Absolute) (named : Names path.location) : NormalForm path.chars
  | relative (ups : Nat) (names : Location) (named : Names names)
      (present : List.replicate ups dotDot ++ names ≠ []) :
      NormalForm (joinSlash (List.replicate ups dotDot ++ names))

theorem normal_text_form (path : Chars) : NormalForm (normalText path) := by
  have free := split_slash_free path
  by_cases relative : leadingSlashes path = 0
  · rw [normal_text_relative relative]
    split_ifs with none
    · exact .here
    · obtain ⟨ups, names, named, kept⟩ := collapse_relative free
      rw [kept] at none ⊢
      exact .relative ups names named none
  · rw [normal_text_rooted relative]
    exact .rooted _ (collapse_names _ free)

theorem ups_names_slash_free (ups : Nat) {names : Location} (named : Names names) :
    SlashFree (List.replicate ups dotDot ++ names) := by
  refine List.forall_mem_append.2 ⟨fun segment member => ?_, names_slash_free named⟩
  rw [List.eq_of_mem_replicate member]
  decide

theorem ups_names_head {ups : Nat} {names : Location} (named : Names names)
    (present : List.replicate ups dotDot ++ names ≠ []) :
    (joinSlash (List.replicate ups dotDot ++ names)).head? ≠ some '/' := by
  cases ups with
  | zero => exact join_head_ne_slash named present
  | succ ups =>
      rw [List.replicate_succ, List.cons_append]
      cases List.replicate ups dotDot ++ names <;> simp [joinSlash, dotDot]

theorem normal_text_ups_names {ups : Nat} {names : Location} (named : Names names)
    (present : List.replicate ups dotDot ++ names ≠ []) :
    normalText (joinSlash (List.replicate ups dotDot ++ names)) =
      joinSlash (List.replicate ups dotDot ++ names) := by
  have relative := (leading_slashes_of_head (ups_names_head named present)).1
  rw [normal_text_relative relative, split_join _ (ups_names_slash_free ups named) present,
    collapse_ups_names ups named, if_neg present]

theorem normal_text_chars (path : Absolute) (named : Names path.location) :
    normalText path.chars = path.chars := by
  have slashes := leading_slashes_chars path named
  have rooted : leadingSlashes path.chars ≠ 0 := by
    rw [slashes]
    split <;> decide
  obtain ⟨blanks, blank, parts⟩ := split_chars path named
  rw [normal_text_rooted rooted, parts, collapse_blanks true blanks _ blank,
    collapse_of_names true named, slashes]
  cases doubled : path.doubled <;> simp [Absolute.chars, doubled]

/-- A text is its own normal form exactly if it is one. -/
theorem normal_text_eq_iff (text : Chars) : normalText text = text ↔ NormalForm text := by
  constructor
  · intro same
    rw [← same]
    exact normal_text_form text
  · intro form
    cases form with
    | here => decide
    | rooted path named => exact normal_text_chars path named
    | relative ups names named present => exact normal_text_ups_names named present

/-- Normalising once more changes nothing. -/
theorem normalize_again (path : String) : normalize (normalize path) = normalize path := by
  have fixed := (normal_text_eq_iff _).2 (normal_text_form (unifySlashes path.toList))
  rw [normalize, unify_normalize, fixed, normalize]

/-- The segments of a text: empty ones that slashes in front make, or some `..` where no slash is in
front, and then names. -/
structure SplitsInOrder (text : Chars) (blanks : List Segment) (ups : Nat) (names : Location) :
    Prop where
  split : splitSlash text = blanks ++ (List.replicate ups dotDot ++ names)
  blank : ∀ segment ∈ blanks, segment = []
  named : Names names
  rooted : text.head? = some '/' → ups = 0
  relative : text.head? ≠ some '/' → blanks = []

theorem normal_form_split {text : Chars} (form : NormalForm text) (notDot : text ≠ dot) :
    ∃ blanks ups names, SplitsInOrder text blanks ups names := by
  cases form with
  | here => exact absurd rfl notDot
  | rooted path named =>
      obtain ⟨blanks, blank, parts⟩ := split_chars path named
      exact ⟨blanks, 0, path.location, parts, blank, named, fun _ => rfl,
        fun relative => absurd (chars_head path) relative⟩
  | relative ups names named present =>
      have parts := split_join _ (ups_names_slash_free ups named) present
      exact ⟨[], ups, names, parts, by simp, named,
        fun rooted => absurd rooted (ups_names_head named present), fun _ => rfl⟩

theorem normalize_splits (path : String) :
    normalize path = "." ∨
      ∃ blanks ups names, SplitsInOrder (normalize path).toList blanks ups names := by
  rw [normalize_chars]
  by_cases here : normalText (unifySlashes path.toList) = dot
  · left
    rw [normalize, here]
    rfl
  · right
    exact normal_form_split (normal_text_form _) here

end StorefrontSurvey.Path
