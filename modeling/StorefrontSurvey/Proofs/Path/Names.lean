import StorefrontSurvey.Path.Absolute
/-!
Names and how they are written. A location is a list of names; its text splits back into them, and
one location is written within another one exactly if its names go on from the other's.
-/
namespace StorefrontSurvey.Path

/-- What a directory can hold an entry under. -/
structure IsName (name : Segment) : Prop where
  ne_nil : name ≠ []
  ne_dot : name ≠ dot
  ne_dotDot : name ≠ dotDot
  no_slash : '/' ∉ name

/-- Every segment is stepped over, leads up, or is a name. -/
theorem segment_cases (name : Segment) (free : '/' ∉ name) :
    (name = [] ∨ name = dot) ∨ name = dotDot ∨ IsName name := by
  by_cases skipped : name = [] ∨ name = dot
  · exact Or.inl skipped
  · by_cases up : name = dotDot
    · exact Or.inr (Or.inl up)
    · rw [not_or] at skipped
      exact Or.inr (Or.inr ⟨skipped.1, skipped.2, up, free⟩)

/-- Segments as splitting gives them. -/
def SlashFree (segments : List Segment) : Prop := ∀ segment ∈ segments, '/' ∉ segment

def Names (location : Location) : Prop := ∀ name ∈ location, IsName name

theorem names_slash_free {location : Location} (names : Names location) : SlashFree location :=
  fun name member => (names name member).no_slash

theorem slash_free_cons {segment : Segment} {segments : List Segment}
    (free : SlashFree (segment :: segments)) : '/' ∉ segment ∧ SlashFree segments :=
  List.forall_mem_cons.1 free

theorem split_ne_nil (path : Chars) : splitSlash path ≠ [] := by
  cases path with
  | nil => simp [splitSlash]
  | cons c rest =>
      simp only [splitSlash]
      split
      · simp
      · split <;> simp

theorem split_slash_free (path : Chars) : SlashFree (splitSlash path) := by
  induction path with
  | nil => simp [splitSlash, SlashFree]
  | cons c rest ih =>
      simp only [splitSlash]
      split
      · exact List.forall_mem_cons.2 ⟨by simp, ih⟩
      · rename_i noSlash
        cases parts : splitSlash rest with
        | nil => exact absurd parts (split_ne_nil rest)
        | cons first more =>
            rw [parts] at ih
            obtain ⟨firstFree, moreFree⟩ := slash_free_cons ih
            refine List.forall_mem_cons.2 ⟨?_, moreFree⟩
            simpa [Ne.symm noSlash] using firstFree

theorem split_segment_slash (segment : Segment) (rest : Chars) (free : '/' ∉ segment) :
    splitSlash (segment ++ '/' :: rest) = segment :: splitSlash rest := by
  induction segment with
  | nil => simp [splitSlash]
  | cons c more ih =>
      simp only [List.mem_cons, not_or] at free
      simp [splitSlash, Ne.symm free.1, ih free.2]

theorem split_segment (segment : Segment) (free : '/' ∉ segment) :
    splitSlash segment = [segment] := by
  induction segment with
  | nil => rfl
  | cons c more ih =>
      simp only [List.mem_cons, not_or] at free
      simp [splitSlash, Ne.symm free.1, ih free.2]

theorem mem_of_mem_split {c : Char} {segment : Segment} {path : Chars}
    (member : segment ∈ splitSlash path) (within : c ∈ segment) : c ∈ path := by
  induction path generalizing segment with
  | nil =>
      obtain rfl := List.mem_singleton.1 member
      cases within
  | cons first rest ih =>
      simp only [splitSlash] at member
      split at member
      · rcases List.mem_cons.1 member with rfl | later
        · cases within
        · exact List.mem_cons_of_mem first (ih later within)
      · cases parts : splitSlash rest with
        | nil => exact absurd parts (split_ne_nil rest)
        | cons head more =>
            rw [parts] at member ih
            rcases List.mem_cons.1 member with rfl | later
            · rcases List.mem_cons.1 within with rfl | inHead
              · exact List.mem_cons_self
              · exact List.mem_cons_of_mem first (ih List.mem_cons_self inHead)
            · exact List.mem_cons_of_mem first (ih (List.mem_cons_of_mem head later) within)

theorem split_join (segments : List Segment) (free : SlashFree segments)
    (present : segments ≠ []) : splitSlash (joinSlash segments) = segments := by
  induction segments with
  | nil => exact absurd rfl present
  | cons first more ih =>
      obtain ⟨firstFree, moreFree⟩ := slash_free_cons free
      cases more with
      | nil => exact split_segment first firstFree
      | cons second rest =>
          rw [joinSlash, split_segment_slash first _ firstFree, ih moreFree (by simp)]

theorem join_append (left right : List Segment) (leftPresent : left ≠ [])
    (rightPresent : right ≠ []) :
    joinSlash (left ++ right) = joinSlash left ++ '/' :: joinSlash right := by
  induction left with
  | nil => exact absurd rfl leftPresent
  | cons first more ih =>
      cases more with
      | nil =>
          obtain ⟨second, rest, rfl⟩ := List.exists_cons_of_ne_nil rightPresent
          rfl
      | cons second rest =>
          have tail := ih (by simp)
          simp only [List.cons_append, joinSlash] at tail ⊢
          rw [tail, List.append_assoc]
          rfl

theorem split_join_slash (segments : List Segment) (rest : Chars) (free : SlashFree segments)
    (present : segments ≠ []) :
    splitSlash (joinSlash segments ++ '/' :: rest) = segments ++ splitSlash rest := by
  induction segments with
  | nil => exact absurd rfl present
  | cons first more ih =>
      obtain ⟨firstFree, moreFree⟩ := slash_free_cons free
      cases more with
      | nil => exact split_segment_slash first rest firstFree
      | cons second others =>
          rw [joinSlash, List.append_assoc, List.cons_append,
            split_segment_slash first _ firstFree, ih moreFree (by simp)]
          rfl

/-- Apart from slashes, what is written is what the segments hold. -/
theorem mem_join {c : Char} (segments : List Segment) (noSlash : c ≠ '/') :
    c ∈ joinSlash segments ↔ ∃ segment ∈ segments, c ∈ segment := by
  induction segments with
  | nil => simp [joinSlash]
  | cons first more ih =>
      cases more with
      | nil => simp [joinSlash]
      | cons second rest =>
          rw [joinSlash, List.mem_append, List.mem_cons, ih]
          simp [noSlash]

theorem mem_chars {c : Char} (path : Absolute) (noSlash : c ≠ '/') :
    c ∈ path.chars ↔ ∃ segment ∈ path.location, c ∈ segment := by
  rw [← mem_join path.location noSlash]
  cases doubled : path.doubled <;> simp [Absolute.chars, doubled, noSlash]

/-! ### Collapsing -/

/-- From the top, collapsed segments are names: nothing is left to step over or to go up from. -/
theorem push_segment_names (kept : List Segment) (segment : Segment) (free : '/' ∉ segment)
    (names : Names kept) : Names (pushSegment true kept segment) := by
  unfold pushSegment
  by_cases empty : segment = [] ∨ segment = dot
  · rwa [if_pos empty]
  · rw [if_neg empty]
    by_cases up : segment = dotDot
    · rw [if_pos up]
      cases kept with
      | nil => simp [Names]
      | cons top below =>
          have topName : IsName top := names top (by simp)
          have belowNames : Names below := fun name member => names name (by simp [member])
          simpa [topName.ne_dotDot] using belowNames
    · rw [if_neg up]
      rw [not_or] at empty
      exact List.forall_mem_cons.2 ⟨⟨empty.1, empty.2, up, free⟩, names⟩

theorem collapse_names (segments : List Segment) (free : SlashFree segments) :
    Names (collapse true segments) := by
  have folded : ∀ kept, Names kept → Names (segments.foldl (pushSegment true) kept) := by
    induction segments with
    | nil => exact fun _ names => names
    | cons first more ih =>
        obtain ⟨firstFree, moreFree⟩ := slash_free_cons free
        exact fun kept names => ih moreFree _ (push_segment_names kept first firstFree names)
  intro name member
  exact folded [] (by simp [Names]) name (by simpa [collapse] using member)

theorem mem_push_segment {rooted : Bool} {kept : List Segment} {segment other : Segment}
    (member : other ∈ pushSegment rooted kept segment) :
    other ∈ kept ∨ (other = segment ∧ segment ≠ [] ∧ segment ≠ dot) := by
  unfold pushSegment at member
  by_cases empty : segment = [] ∨ segment = dot
  · rw [if_pos empty] at member
    exact Or.inl member
  · rw [if_neg empty] at member
    rw [not_or] at empty
    have added (within : other ∈ segment :: kept) :
        other ∈ kept ∨ (other = segment ∧ segment ≠ [] ∧ segment ≠ dot) :=
      (List.mem_cons.1 within).symm.imp_right fun same => ⟨same, empty⟩
    by_cases up : segment = dotDot
    · rw [if_pos up] at member
      cases kept with
      | nil => cases rooted <;> simp_all
      | cons top below =>
          dsimp only at member
          split at member
          · exact added (up ▸ member)
          · exact Or.inl (List.mem_cons_of_mem top member)
    · rw [if_neg up] at member
      exact added member

/-- Collapsing makes no new segments, and it keeps none that is empty or a dot. -/
theorem mem_collapse {rooted : Bool} {segments : List Segment} {segment : Segment}
    (member : segment ∈ collapse rooted segments) :
    segment ∈ segments ∧ segment ≠ [] ∧ segment ≠ dot := by
  have folded : ∀ kept, segment ∈ segments.foldl (pushSegment rooted) kept →
      segment ∈ kept ∨ (segment ∈ segments ∧ segment ≠ [] ∧ segment ≠ dot) := by
    clear member
    induction segments with
    | nil => exact fun _ => Or.inl
    | cons first more ih =>
        intro kept within
        rcases ih _ within with early | ⟨later, solid⟩
        · rcases mem_push_segment early with old | ⟨rfl, solid⟩
          · exact Or.inl old
          · exact Or.inr ⟨List.mem_cons_self, solid⟩
        · exact Or.inr ⟨List.mem_cons_of_mem first later, solid⟩
  rcases folded [] (by simpa [collapse] using member) with none | given
  · cases none
  · exact given

theorem push_name (rooted : Bool) (kept : List Segment) {name : Segment} (isName : IsName name) :
    pushSegment rooted kept name = name :: kept := by
  have named : ¬(name = [] ∨ name = dot) := not_or.2 ⟨isName.ne_nil, isName.ne_dot⟩
  unfold pushSegment
  rw [if_neg named, if_neg isName.ne_dotDot]

theorem push_names (rooted : Bool) (kept : List Segment) {location : Location}
    (names : Names location) :
    location.foldl (pushSegment rooted) kept = location.reverse ++ kept := by
  induction location generalizing kept with
  | nil => rfl
  | cons first more ih =>
      obtain ⟨isName, moreNames⟩ := List.forall_mem_cons.1 names
      rw [List.foldl_cons, push_name rooted kept isName, ih _ moreNames, List.reverse_cons,
        List.append_assoc]
      rfl

/-- Names are collapsed to themselves. -/
theorem collapse_of_names (rooted : Bool) {location : Location} (names : Names location) :
    collapse rooted location = location := by
  rw [collapse, push_names rooted [] names, List.append_nil, List.reverse_reverse]

theorem from_directory_names (directory : Location) (path : Chars) :
    Names (fromDirectory directory path).location :=
  collapse_names _ (split_slash_free _)

/-! ### Texts of locations -/

/-- The segments of a path's text, apart from the empty ones that its leading slashes make. -/
theorem split_chars (path : Absolute) (names : Names path.location) :
    ∃ blanks, (∀ segment ∈ blanks, segment = []) ∧
      splitSlash path.chars = blanks ++ path.location := by
  have free := names_slash_free names
  have tail : ∃ blanks, (∀ segment ∈ blanks, segment = []) ∧
      splitSlash (joinSlash path.location) = blanks ++ path.location := by
    by_cases present : path.location = []
    · exact ⟨[[]], by simp, by rw [present]; rfl⟩
    · exact ⟨[], by simp, split_join _ free present⟩
  obtain ⟨blanks, blank, split⟩ := tail
  cases doubled : path.doubled with
  | false =>
      refine ⟨[] :: blanks, List.forall_mem_cons.2 ⟨rfl, blank⟩, ?_⟩
      simp [Absolute.chars, doubled, splitSlash, split]
  | true =>
      refine ⟨[] :: [] :: blanks, ?_, ?_⟩
      · exact List.forall_mem_cons.2 ⟨rfl, List.forall_mem_cons.2 ⟨rfl, blank⟩⟩
      · simp [Absolute.chars, doubled, splitSlash, split]

theorem text_chars (path : Absolute) : path.text.toList = path.chars := String.toList_ofList

theorem chars_head (path : Absolute) : path.chars.head? = some '/' := by
  cases doubled : path.doubled <;> simp [Absolute.chars, doubled]

theorem join_last_ne_slash (location : Location) (names : Names location)
    (present : location ≠ []) : ('/' :: joinSlash location).getLast? ≠ some '/' := by
  induction location with
  | nil => exact absurd rfl present
  | cons first more ih =>
      obtain ⟨firstName, moreNames⟩ := List.forall_mem_cons.1 names
      cases more with
      | nil =>
          obtain ⟨c, rest, rfl⟩ := List.exists_cons_of_ne_nil firstName.ne_nil
          intro last
          have final : (c :: rest).getLast? = some '/' := by
            simpa [joinSlash] using last
          exact firstName.no_slash (List.mem_of_getLast? final)
      | cons second others =>
          have later := ih moreNames (by simp)
          intro last
          apply later
          rw [joinSlash, ← List.cons_append, List.getLast?_append] at last
          simpa using last

/-- The text that every place below a root starts with. -/
def belowText (root : Location) : Chars :=
  if root = [] then ['/'] else (root : Absolute).chars ++ ['/']

theorem is_within_eq (place root : Location) (names : Names root) :
    (place : Absolute).isWithin root =
      (decide (place = root) || (belowText root).isPrefixOf (place : Absolute).chars) := by
  have equal : ((place : Absolute) == (root : Absolute)) = decide (place = root) := by
    by_cases same : place = root <;> simp [same]
  by_cases top : root = []
  · subst top
    simp [Absolute.isWithin, belowText, Absolute.chars, joinSlash, equal]
  · have last : (root : Absolute).chars.getLast? ≠ some '/' := by
      simpa [Absolute.chars] using join_last_ne_slash root names top
    simp [Absolute.isWithin, belowText, top, last, equal]

/-- A place is written within a root exactly if its names go on from the root's. -/
theorem is_within_iff (place root : Location) (placeNames : Names place)
    (rootNames : Names root) :
    (place : Absolute).isWithin root = true ↔ root <+: place := by
  rw [is_within_eq place root rootNames, Bool.or_eq_true, decide_eq_true_iff,
    List.isPrefixOf_iff_prefix]
  constructor
  · rintro (same | written)
    · exact same ▸ List.prefix_refl root
    · by_cases top : root = []
      · exact top ▸ List.nil_prefix
      · obtain ⟨rest, text⟩ := written
        have parts : '/' :: joinSlash root ++ ['/'] ++ rest = '/' :: joinSlash place := by
          simpa [belowText, top, Absolute.chars] using text
        have joined : joinSlash root ++ '/' :: rest = joinSlash place := by simpa using parts
        have present : place ≠ [] := by
          intro empty
          simp [empty, joinSlash] at joined
        have split := congrArg splitSlash joined
        rw [split_join_slash root rest (names_slash_free rootNames) top,
          split_join place (names_slash_free placeNames) present] at split
        exact ⟨splitSlash rest, split⟩
  · rintro ⟨rest, rfl⟩
    by_cases none : rest = []
    · exact Or.inl (by simp [none])
    · refine Or.inr ?_
      by_cases top : root = []
      · exact ⟨joinSlash rest, by simp [top, belowText, Absolute.chars]⟩
      · refine ⟨joinSlash rest, ?_⟩
        simp [belowText, top, Absolute.chars, join_append root rest top none]

theorem within_append {place root : Location} (more : Location)
    (names : Names (place ++ more)) (rootNames : Names root)
    (inside : (place : Absolute).isWithin root = true) :
    ((place ++ more : Location) : Absolute).isWithin root = true := by
  have placeNames : Names place := fun name member => names name (by simp [member])
  rw [is_within_iff _ _ names rootNames]
  exact ((is_within_iff _ _ placeNames rootNames).1 inside).trans (List.prefix_append _ _)

end StorefrontSurvey.Path
