import StorefrontSurvey.Proofs.Path.Segments
/-!
Where a target lies that is taken from a directory, and the way to it from there. What of the target's
place goes beyond the directory was written in the target. The way goes up exactly if the place does
not lie below the directory, and a way that goes up stays so in normal form.
-/
namespace StorefrontSurvey.Path

/-! ### Targets from a directory -/

/-- The names of a target that is taken from a directory, or from the top if it starts there, with
empty, `.` and `..` segments collapsed. -/
def collapsedFrom (directory : Location) (target : Chars) : Location :=
  collapse true ((if target.head? = some '/' then [] else directory) ++ splitSlash target)

theorem collapse_blank (rooted : Bool) (segments : List Segment) :
    collapse rooted ([] :: segments) = collapse rooted segments := by
  simp [collapse, pushSegment]

theorem collapse_blanks (rooted : Bool) (blanks segments : List Segment)
    (blank : ∀ segment ∈ blanks, segment = []) :
    collapse rooted (blanks ++ segments) = collapse rooted segments := by
  induction blanks with
  | nil => rfl
  | cons first more ih =>
      obtain ⟨rfl, moreBlank⟩ := List.forall_mem_cons.1 blank
      rw [List.cons_append, collapse_blank]
      exact ih moreBlank

theorem leading_slashes_chars (path : Absolute) (names : Names path.location) :
    leadingSlashes path.chars = if path.doubled then 2 else 1 := by
  have relative : (joinSlash path.location).head? ≠ some '/' := by
    by_cases top : path.location = []
    · rw [top]
      decide
    · exact join_head_ne_slash names top
  generalize written : joinSlash path.location = rest at relative
  cases doubled : path.doubled with
  | false => simp [Absolute.chars, doubled, written, (leading_slashes_of_head relative).2]
  | true =>
      cases rest with
      | nil => simp [Absolute.chars, doubled, written, leadingSlashes]
      | cons c more =>
          have noSlash : c ≠ '/' := by simpa using relative
          simp [Absolute.chars, doubled, written, leadingSlashes, noSlash]

theorem from_directory_location {directory : Location} (names : Names directory) (target : Chars) :
    (fromDirectory directory target).location = collapsedFrom directory target := by
  have whole : (fromDirectory directory target).location =
      collapse true (splitSlash (joined directory target)) := rfl
  rw [whole, collapsedFrom, joined]
  split_ifs with top empty
  · rfl
  · have none : directory = [] := by simpa using empty
    rw [split_slash_cons, collapse_blank, none]
    rfl
  · have present : directory ≠ [] := by simpa using empty
    have text : (directory : Absolute).chars ++ '/' :: target =
        '/' :: (joinSlash directory ++ '/' :: target) := rfl
    rw [text, split_slash_cons, collapse_blank,
      split_join_slash directory target (names_slash_free names) present]

/-- A segment that is pushed is added, or some that were kept are dropped. -/
theorem push_segment_parts (rooted : Bool) (kept : List Segment) (segment : Segment) :
    ∃ added dropped, pushSegment rooted kept segment = added ++ kept.drop dropped ∧
      ∀ other ∈ added, other = segment := by
  unfold pushSegment
  by_cases blank : segment = [] ∨ segment = dot
  · exact ⟨[], 0, by simp [blank]⟩
  · rw [if_neg blank]
    by_cases up : segment = dotDot
    · rw [if_pos up]
      cases kept with
      | nil =>
          cases rooted
          · exact ⟨[dotDot], 0, by simp [up]⟩
          · exact ⟨[], 0, by simp⟩
      | cons top below =>
          by_cases stays : top = dotDot
          · exact ⟨[dotDot], 0, by simp [stays, up]⟩
          · exact ⟨[], 1, by simp [stays]⟩
    · exact ⟨[segment], 0, by simp [up]⟩

/-- Pushed segments leave what was kept first, with some of them after it. -/
theorem push_all_parts (rooted : Bool) (segments kept : List Segment) :
    ∃ added dropped, segments.foldl (pushSegment rooted) kept = added ++ kept.drop dropped ∧
      ∀ segment ∈ added, segment ∈ segments := by
  induction segments generalizing kept with
  | nil => exact ⟨[], 0, by simp⟩
  | cons first rest ih =>
      obtain ⟨early, gone, pushed, own⟩ := push_segment_parts rooted kept first
      obtain ⟨added, dropped, folded, given⟩ := ih (pushSegment rooted kept first)
      refine ⟨added ++ early.drop dropped, gone + (dropped - early.length), ?_, ?_⟩
      · rw [List.foldl_cons, folded, pushed, List.drop_append, List.drop_drop, List.append_assoc]
      · intro segment member
        rcases List.mem_append.1 member with later | earlier
        · exact List.mem_cons_of_mem first (given segment later)
        · exact List.mem_cons.2 (Or.inl (own segment (List.mem_of_mem_drop earlier)))

/-- What goes beyond the directory was written in the target. -/
theorem mem_beyond_directory {directory : Location} (names : Names directory) {target : Chars}
    {segment : Segment}
    (member : segment ∈ (collapsedFrom directory target).drop directory.length) :
    segment ∈ splitSlash target := by
  unfold collapsedFrom at member
  split_ifs at member with top
  · exact (mem_collapse (List.mem_of_mem_drop member)).1
  · have first : directory.foldl (pushSegment true) [] = directory.reverse := by
      rw [push_names true [] names, List.append_nil]
    obtain ⟨added, dropped, folded, given⟩ :=
      push_all_parts true (splitSlash target) directory.reverse
    have place : collapse true (directory ++ splitSlash target) =
        directory.take (directory.length - dropped) ++ added.reverse := by
      rw [collapse, List.foldl_append, first, folded, List.reverse_append, List.drop_reverse,
        List.reverse_reverse]
    rw [place, List.drop_append, List.drop_eq_nil_of_le (by simp), List.nil_append] at member
    exact given segment (List.mem_reverse.1 (List.mem_of_mem_drop member))

/-! ### Ways -/

theorem shared_length_append (directory rest : Location) :
    sharedLength directory (directory ++ rest) = directory.length := by
  induction directory with
  | nil => cases rest <;> rfl
  | cons first more ih => simp [sharedLength, ih]

theorem shared_length_outside {directory place : Location} (outside : ¬directory <+: place) :
    sharedLength directory place < directory.length := by
  induction directory generalizing place with
  | nil => exact absurd List.nil_prefix outside
  | cons first more ih =>
      cases place with
      | nil => simp [sharedLength]
      | cons second others =>
          by_cases same : first = second
          · rw [same, List.cons_prefix_cons] at outside
            have later := ih (by simpa using outside)
            simpa [sharedLength, same] using later
          · simp [sharedLength, same]

theorem way_from_below (directory rest : Location) :
    wayFrom directory (directory ++ rest) = if rest = [] then dot else joinSlash rest := by
  simp [wayFrom, shared_length_append]

theorem way_from_outside {directory place : Location} (outside : ¬directory <+: place) :
    ∃ more, wayFrom directory place = joinSlash (dotDot :: more) := by
  have short := shared_length_outside outside
  obtain ⟨ups, count⟩ := Nat.exists_eq_add_of_lt short
  have above : directory.length - sharedLength directory place = ups + 1 := by omega
  refine ⟨List.replicate ups dotDot ++ place.drop (sharedLength directory place), ?_⟩
  simp [wayFrom, above, List.replicate_succ]

/-! ### Going up -/

theorem push_keeps_up {kept : List Segment} (up : kept.getLast? = some dotDot) (segment : Segment) :
    (pushSegment false kept segment).getLast? = some dotDot := by
  obtain ⟨top, below, rfl⟩ : ∃ top below, kept = top :: below := by
    cases kept with
    | nil => cases up
    | cons top below => exact ⟨top, below, rfl⟩
  unfold pushSegment
  by_cases blank : segment = [] ∨ segment = dot
  · rwa [if_pos blank]
  · rw [if_neg blank]
    by_cases climbs : segment = dotDot
    · rw [if_pos climbs]
      by_cases stays : top = dotDot
      · simpa [stays] using up
      · have more : below ≠ [] := by
          rintro rfl
          exact stays (by simpa using up)
        obtain ⟨next, others, rfl⟩ := List.exists_cons_of_ne_nil more
        simpa [stays] using up
    · rw [if_neg climbs]
      simpa using up

theorem push_all_keep_up {kept : List Segment} (up : kept.getLast? = some dotDot)
    (segments : List Segment) :
    (segments.foldl (pushSegment false) kept).getLast? = some dotDot := by
  induction segments generalizing kept with
  | nil => exact up
  | cons first rest ih => exact ih (push_keeps_up up first)

/-- Where there is no top, a first `..` stays in front. -/
theorem collapse_up (segments : List Segment) :
    ∃ more, collapse false (dotDot :: segments) = dotDot :: more := by
  have first : [dotDot].getLast? = some dotDot := rfl
  have last := push_all_keep_up first segments
  rw [← List.head?_reverse] at last
  obtain ⟨more, whole⟩ := List.head?_eq_some_iff.1 last
  exact ⟨more, whole⟩

theorem unify_join_up (more : List Segment) :
    ∃ others, splitSlash (unifySlashes (joinSlash (dotDot :: more))) = dotDot :: others ∧
      leadingSlashes (unifySlashes (joinSlash (dotDot :: more))) = 0 := by
  cases more with
  | nil => exact ⟨[], by decide, by decide⟩
  | cons next rest =>
      have text : unifySlashes (joinSlash (dotDot :: next :: rest)) =
          dotDot ++ '/' :: unifySlashes (joinSlash (next :: rest)) := rfl
      rw [text, split_segment_slash dotDot _ (by decide)]
      exact ⟨_, rfl, rfl⟩

/-- A way that goes up climbs out, whatever comes after. -/
theorem climbs_out_up (more : List Segment) :
    climbsOut (String.ofList (joinSlash (dotDot :: more))) = true := by
  obtain ⟨others, parts, relative⟩ := unify_join_up more
  obtain ⟨kept, whole⟩ := collapse_up others
  have split := split_join_collapsed false (unifySlashes (joinSlash (dotDot :: more)))
  rw [parts, whole] at split
  have filled : joinSlash (dotDot :: kept) ≠ [] := by cases kept <;> simp [joinSlash, dotDot]
  have normal : normalText (unifySlashes (joinSlash (dotDot :: more))) =
      joinSlash (dotDot :: kept) := by
    simp [normalText, relative, parts, whole, filled]
  rw [climbsOut, normalize, String.toList_ofList, String.toList_ofList, normal, split]
  simp

/-- A way down climbs out nowhere, as long as no backslash in it is taken for a slash. -/
theorem climbs_out_below {rest : Location} (names : Names rest)
    (free : ∀ name ∈ rest, '\\' ∉ name) :
    climbsOut (String.ofList (if rest = [] then dot else joinSlash rest)) = false := by
  by_cases none : rest = []
  · rw [if_pos none]
    decide +kernel
  · have noBackslash : '\\' ∉ joinSlash rest := by
      rw [mem_join rest (by decide)]
      rintro ⟨name, member, within⟩
      exact free name member within
    have normal : normalText (joinSlash rest) = joinSlash rest :=
      normal_text_plain ⟨rest, names, none, Or.inl rfl⟩
    rw [if_neg none, climbsOut, normalize, String.toList_ofList, String.toList_ofList,
      unify_of_free noBackslash, normal, split_join rest (names_slash_free names) none]
    have noUp : dotDot ∉ rest := fun member => (names dotDot member).ne_dotDot rfl
    simpa using noUp

end StorefrontSurvey.Path
