import StorefrontSurvey.Proofs.Path.NormalForms
/-!
Paths that climb out. The stack that collapses the segments holds a `..` in the end exactly if the
segments, up to some place, have gone up more often than down. The main statement says so of written
paths, and what their normal forms look like.
-/
namespace StorefrontSurvey.Path

/-! ### Going up more often than down -/

/-- Up to some place, segments go up more often than down, and so often that they come out above a
start so many names deep. -/
def RisesAbove (depth : Nat) (segments : List Segment) : Prop :=
  ∃ early, early <+: segments ∧ depth + early.countP (· ≠ dotDot) < early.count dotDot

theorem rises_above_nil (depth : Nat) : ¬RisesAbove depth [] := by
  rintro ⟨early, before, more⟩
  rw [List.prefix_nil.1 before] at more
  simp at more

/-- The place is not the very start. -/
theorem rises_above_cons {depth : Nat} {first : Segment} {rest : List Segment} :
    RisesAbove depth (first :: rest) ↔ ∃ early, early <+: rest ∧
      depth + (first :: early).countP (· ≠ dotDot) < (first :: early).count dotDot := by
  constructor
  · rintro ⟨early, before, more⟩
    rcases List.prefix_cons_iff.1 before with rfl | ⟨later, rfl, within⟩
    · simp at more
    · exact ⟨later, within, more⟩
  · rintro ⟨early, within, more⟩
    exact ⟨first :: early, (List.prefix_cons_inj first).2 within, more⟩

theorem rises_above_up (rest : List Segment) : RisesAbove 0 (dotDot :: rest) :=
  rises_above_cons.2 ⟨[], List.nil_prefix, by simp⟩

theorem rises_above_up_succ (depth : Nat) (rest : List Segment) :
    RisesAbove (depth + 1) (dotDot :: rest) ↔ RisesAbove depth rest := by
  rw [rises_above_cons]
  refine exists_congr fun early => and_congr_right fun _ => ?_
  rw [List.countP_cons_of_neg (by simp), List.count_cons_self]
  omega

theorem rises_above_down (depth : Nat) {first : Segment} (rest : List Segment)
    (down : first ≠ dotDot) :
    RisesAbove depth (first :: rest) ↔ RisesAbove (depth + 1) rest := by
  rw [rises_above_cons]
  refine exists_congr fun early => and_congr_right fun _ => ?_
  rw [List.countP_cons_of_pos (by simpa using down), List.count_cons_of_ne down]
  omega

/-! ### What the stack holds in the end -/

/-- A `..` that is kept stays, so it matters only whether one is ever kept. That happens where a `..`
finds the stack empty, and until then the stack is as high as the way is deep. -/
theorem up_kept_iff (segments kept : List Segment)
    (moves : ∀ segment ∈ segments, segment = dotDot ∨ IsName segment) (down : dotDot ∉ kept) :
    dotDot ∈ segments.foldl (pushSegment false) kept ↔ RisesAbove kept.length segments := by
  induction segments generalizing kept with
  | nil => exact iff_of_false down (rises_above_nil _)
  | cons first rest ih =>
      obtain ⟨move, restMoves⟩ := List.forall_mem_cons.1 moves
      rw [List.foldl_cons]
      rcases move with rfl | isName
      · cases kept with
        | nil =>
            -- Nothing is left to go up from, so the `..` itself is kept, and for good.
            have alone : [dotDot].getLast? = some dotDot := rfl
            have stays := push_all_keep_up alone rest
            exact iff_of_true (List.mem_of_getLast? stays) (rises_above_up rest)
        | cons top below =>
            rw [List.mem_cons, not_or] at down
            rw [push_up_name false below (Ne.symm down.1), ih below restMoves down.2]
            exact (rises_above_up_succ below.length rest).symm
      · have further : dotDot ∉ first :: kept := by
          simp [down, Ne.symm isName.ne_dotDot]
        rw [push_name false kept isName, ih _ restMoves further]
        exact (rises_above_down kept.length rest isName.ne_dotDot).symm

theorem meaningful_moves {path : Chars} {segment : Segment} (member : segment ∈ meaningful path) :
    segment = dotDot ∨ IsName segment := by
  obtain ⟨written, solid⟩ := List.mem_filter.1 member
  have kept : segment ≠ [] ∧ segment ≠ dot := by simpa using solid
  rcases segment_cases segment (split_slash_free path segment written) with skipped | move
  · exact absurd skipped (not_or.2 kept)
  · exact move

/-- Empty and `.` segments leave no trace. -/
theorem collapse_meaningful (rooted : Bool) (path : Chars) :
    collapse rooted (meaningful path) = collapse rooted (splitSlash path) := by
  have skips : (fun (kept : List Segment) (segment : Segment) =>
      if decide (segment ≠ [] ∧ segment ≠ dot) = true then pushSegment rooted kept segment
      else kept) = pushSegment rooted := by
    funext kept segment
    split_ifs with solid
    · rfl
    · rw [decide_eq_true_iff] at solid
      refine (push_skip rooted kept ?_).symm
      by_contra given
      exact solid (not_or.1 given)
  rw [collapse, meaningful, List.foldl_filter, skips, collapse]

theorem up_left_iff (path : Chars) :
    dotDot ∈ collapse false (splitSlash path) ↔ RisesAbove 0 (meaningful path) := by
  rw [← collapse_meaningful, collapse, List.mem_reverse]
  exact up_kept_iff (meaningful path) [] (fun _ => meaningful_moves) (by simp)

/-! ### Written paths -/

theorem up_in_normal_text_iff (path : Chars) :
    dotDot ∈ splitSlash (normalText path) ↔
      leadingSlashes path = 0 ∧ dotDot ∈ collapse false (splitSlash path) := by
  by_cases relative : leadingSlashes path = 0
  · have split := split_join_collapsed false path
    rw [normal_text_relative relative]
    split_ifs with none
    · simp [none, relative, dot, dotDot, splitSlash]
    · rw [split, if_neg none]
      simp [relative]
  · have named := collapse_names _ (split_slash_free path)
    obtain ⟨blanks, blank, parts⟩ := split_chars
      ⟨collapse true (splitSlash path), leadingSlashes path = 2⟩ named
    refine iff_of_false ?_ fun both => relative both.1
    rw [normal_text_rooted relative, parts, List.mem_append]
    rintro (front | below)
    · exact absurd (blank dotDot front) (by decide)
    · exact (named dotDot below).ne_dotDot rfl

theorem leading_slashes_eq_zero_iff (path : Chars) :
    leadingSlashes path = 0 ↔ path.head? ≠ some '/' := by
  refine ⟨fun relative rooted => ?_, fun other => (leading_slashes_of_head other).1⟩
  obtain ⟨rest, rfl⟩ := List.head?_eq_some_iff.1 rooted
  unfold leadingSlashes at relative
  split at relative <;> simp_all

theorem unify_head (path : Chars) :
    (unifySlashes path).head? = some '/' ↔ path.head? = some '/' ∨ path.head? = some '\\' := by
  cases path with
  | nil => simp [unifySlashes]
  | cons c rest => by_cases back : c = '\\' <;> simp [unifySlashes, back]

theorem climbs_out_iff (path : String) :
    climbsOut path = true ↔
      (path.toList.head? ≠ some '/' ∧ path.toList.head? ≠ some '\\') ∧
        RisesAbove 0 (meaningful (unifySlashes path.toList)) := by
  have relative : leadingSlashes (unifySlashes path.toList) = 0 ↔
      path.toList.head? ≠ some '/' ∧ path.toList.head? ≠ some '\\' := by
    rw [leading_slashes_eq_zero_iff, ne_eq, unify_head, not_or]
  rw [climbsOut, List.contains_iff_mem, normalize_chars, up_in_normal_text_iff, relative,
    up_left_iff]

/-- A normal form is its own normal form, and it holds no backslash. It is a dot, or it splits into
names, after empty segments that slashes in front make or else after some `..`. A path climbs out
exactly if it does not start with a slash or a backslash and, up to some place, has more `..` than
other segments, empty ones and dots not counted. -/
theorem normal_forms_and_climbs (path : String) :
    normalize (normalize path) = normalize path ∧
    '\\' ∉ (normalize path).toList ∧
    (normalize path = "." ∨
      ∃ blanks ups names, SplitsInOrder (normalize path).toList blanks ups names) ∧
    (climbsOut path = true ↔
      (path.toList.head? ≠ some '/' ∧ path.toList.head? ≠ some '\\') ∧
        ∃ early, early <+: meaningful (unifySlashes path.toList) ∧
          early.countP (· ≠ dotDot) < early.count dotDot) := by
  refine ⟨normalize_again path, normalize_no_backslash path, normalize_splits path, ?_⟩
  rw [climbs_out_iff, RisesAbove]
  simp only [Nat.zero_add]

/-- Going up is counted between backslashes too, not from the top, and not where a name only starts
with dots. -/
example : climbsOut "a\\..\\..\\b" = true ∧ climbsOut "/a/../../b" = false ∧
    climbsOut "app/..hidden/file" = false := by
  decide +kernel

end StorefrontSurvey.Path
