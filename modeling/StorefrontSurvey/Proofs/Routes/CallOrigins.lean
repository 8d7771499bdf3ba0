import StorefrontSurvey.Proofs.Routes.WrittenCalls
/-!
Where the routes of a text come from. Each is read from a stretch of the text of its own: a call
behind a word boundary, with gaps between its tokens. A comment in such a gap may run past end
marks, over whatever stands between them, but only where no call with complete comments begins. No
call starts outside of the stretches that are read.
-/
namespace StorefrontSurvey.Routes

open Text (isWordChar)

/-- A part of a text that is a call, named by a word of its own. -/
structure Stretch (IsBody : List Char → Prop) (source : List Char) where
  before : List Char
  call : Call IsBody
  after : List Char
  text : source = before ++ (call.chars ++ after)
  boundary : EndsOutsideWord before

namespace Stretch

variable {IsBody : List Char → Prop} {source : List Char}

def start (s : Stretch IsBody source) : Nat := s.before.length

def stop (s : Stretch IsBody source) : Nat := s.before.length + s.call.chars.length

/-- The stretch is what the search comes to first behind the name. -/
def IsFirstRead (s : Stretch IsBody source) : Prop :=
  callAfterName? (s.call.argumentsThen s.after) = some (s.call.route, s.after)

theorem starts_at (s : Stretch IsBody source) {before rest : List Char} (text : source = before ++ rest)
    (here : s.start = before.length) : s.before = before ∧ rest = s.call.chars ++ s.after := by
  obtain ⟨same_before, same_rest⟩ := List.append_inj (s.text.symm.trans text) here
  exact ⟨same_before, same_rest.symm⟩

theorem behind_start (s : Stretch IsBody source) :
    source.drop s.start = callName ++ s.call.argumentsThen s.after := by
  calc source.drop s.start
      = (s.before ++ (s.call.chars ++ s.after)).drop s.start := congrArg (List.drop _) s.text
    _ = s.call.chars ++ s.after := List.drop_left
    _ = callName ++ s.call.argumentsThen s.after := s.call.chars_append s.after

theorem behind_name (s : Stretch IsBody source) :
    source.drop (s.start + 5) = s.call.argumentsThen s.after := by
  rw [← List.drop_drop, behind_start]
  rfl

theorem stop_add_after (s : Stretch IsBody source) : s.stop + s.after.length = source.length := by
  have lengths := congrArg List.length s.text
  rw [List.length_append, List.length_append] at lengths
  rw [stop]
  omega

theorem start_lt_length (s : Stretch IsBody source) : s.start < source.length := by
  have whole := s.stop_add_after
  have some_chars := call_not_empty s.call
  rw [stop] at whole
  rw [start]
  omega

theorem first_read_of_complete (s : Stretch EndsFirst source) : s.IsFirstRead :=
  call_after_name_first s.call s.after

/-- Two stretches that begin at one place and are both read first are one stretch. -/
theorem first_read_unique {OtherBody : List Char → Prop} {s : Stretch IsBody source}
    {t : Stretch OtherBody source} (first : s.IsFirstRead) (also_first : t.IsFirstRead)
    (same_start : t.start = s.start) : t.stop = s.stop ∧ t.call.route = s.call.route := by
  have same_text : t.call.argumentsThen t.after = s.call.argumentsThen s.after := by
    rw [← behind_name, ← behind_name, same_start]
  rw [IsFirstRead] at first also_first
  rw [same_text, first] at also_first
  obtain ⟨same_route, same_after⟩ := Prod.mk.inj (Option.some.inj also_first)
  have s_length := s.stop_add_after
  have t_length := t.stop_add_after
  rw [same_after] at s_length
  exact ⟨by omega, same_route.symm⟩

end Stretch

variable {source : List Char}

/-- One step of the reading: a call is read here, or none is written here. -/
theorem routes_from_step (fuel : Nat) (afterWord : Bool) (c : Char) (more : List Char) :
    (∃ call : Call AnyBody, ∃ after, afterWord = false ∧ c :: more = call.chars ++ after ∧
      callAfterName? (call.argumentsThen after) = some (call.route, after) ∧
      routesFrom (fuel + 1) afterWord (c :: more) = call.route :: routesFrom fuel false after) ∨
    (∀ (call : Call AnyBody) after, c :: more = call.chars ++ after → afterWord = true) ∧
      routesFrom (fuel + 1) afterWord (c :: more) = routesFrom fuel (isWordChar c) more := by
  by_cases named : (!afterWord && callName.isPrefixOf (c :: more)) = true
  · obtain ⟨outside, name⟩ := (Bool.and_eq_true _ _).mp named
    obtain ⟨rest, name⟩ := List.isPrefixOf_iff_prefix.mp name
    have behind_name : (c :: more).drop 5 = rest := name ▸ rfl
    cases read : callAfterName? rest with
    | none =>
      right
      constructor
      · intro call after text
        rw [Call.chars_append, ← name] at text
        rw [List.append_cancel_left text] at read
        exact absurd read (call_after_name_complete call after)
      · rw [routesFrom]
        simp only [call_name_eq, named, if_true, behind_name, read]
    | some found =>
      left
      obtain ⟨route, after⟩ := found
      obtain ⟨call, rfl, rfl⟩ := call_after_name_sound read
      refine ⟨call, after, by simpa using outside, ?_, read, ?_⟩
      · rw [Call.chars_append, name]
      · rw [routesFrom]
        simp only [call_name_eq, named, if_true, behind_name, read]
  · right
    constructor
    · intro call after text
      cases afterWord with
      | true => rfl
      | false =>
        refine absurd ?_ named
        rw [text, Call.chars_append, Bool.not_false, Bool.true_and]
        exact List.isPrefixOf_iff_prefix.mpr (List.prefix_append _ _)
    · rw [routesFrom]
      simp only [call_name_eq, named, Bool.false_eq_true, if_false]

theorem in_word_after_append (text : List Char) (c : Char) :
    inWordAfter false (text ++ [c]) = isWordChar c := by
  rw [inWordAfter, List.getLast?_concat]
  rfl

theorem not_in_word_behind_call (before : List Char) (call : Call AnyBody) :
    inWordAfter false (before ++ call.chars) = false := by
  have last : call.chars.getLast? = some call.ending := by
    simp [Call.chars, Call.argumentsThen, List.getLast?_append, List.getLast?_cons]
  rw [inWordAfter, List.getLast?_append, last]
  exact ending_no_word_char call

/-- Some stretch of a list is under way where another one starts. -/
def CoversStart (stretches : List (Stretch AnyBody source)) (t : Stretch AnyBody source) : Prop :=
  ∃ s ∈ stretches, s.start ≤ t.start ∧ t.start < s.stop

/-- From a place of a text on, the routes are read from these stretches and there are no others. -/
structure ReadFrom (place : Nat) (routes : List Route) (stretches : List (Stretch AnyBody source)) :
    Prop where
  routes : routes = stretches.map (·.call.route)
  in_order : stretches.Pairwise (·.stop ≤ ·.start)
  further : ∀ s ∈ stretches, place ≤ s.start
  first : ∀ s ∈ stretches, s.IsFirstRead
  covered : ∀ t : Stretch AnyBody source, place ≤ t.start → CoversStart stretches t

theorem read_from_end {place : Nat} (ended : source.length ≤ place) :
    ReadFrom place [] ([] : List (Stretch AnyBody source)) where
  routes := rfl
  in_order := List.Pairwise.nil
  further _ none := absurd none List.not_mem_nil
  first _ none := absurd none List.not_mem_nil
  covered t further := absurd t.start_lt_length (Nat.not_lt_of_le (Nat.le_trans ended further))

theorem read_from_call {routes : List Route} {stretches : List (Stretch AnyBody source)}
    (s : Stretch AnyBody source) (first : s.IsFirstRead) (later : ReadFrom s.stop routes stretches) :
    ReadFrom s.start (s.call.route :: routes) (s :: stretches) where
  routes := congrArg (s.call.route :: ·) later.routes
  in_order := List.Pairwise.cons later.further later.in_order
  further := by
    intro t member
    cases List.mem_cons.mp member with
    | inl same => exact same ▸ Nat.le_refl _
    | inr member => exact Nat.le_trans (Nat.le_add_right _ _) (later.further t member)
  first := List.forall_mem_cons.mpr ⟨first, later.first⟩
  covered t further := by
    cases Nat.lt_or_ge t.start s.stop with
    | inl within => exact ⟨s, List.mem_cons_self, further, within⟩
    | inr beyond =>
      obtain ⟨u, member, covers⟩ := later.covered t beyond
      exact ⟨u, List.mem_cons_of_mem s member, covers⟩

theorem read_from_char {place : Nat} {routes : List Route} {stretches : List (Stretch AnyBody source)}
    (none_here : ∀ t : Stretch AnyBody source, t.start ≠ place)
    (later : ReadFrom (place + 1) routes stretches) : ReadFrom place routes stretches where
  routes := later.routes
  in_order := later.in_order
  further s member := Nat.le_of_succ_le (later.further s member)
  first := later.first
  covered t further := later.covered t (Nat.lt_of_le_of_ne further (none_here t).symm)

/-- The reading of the rest of a text, whatever stands before it. -/
theorem routes_from_stretches {fuel : Nat} {before rest : List Char} (text : source = before ++ rest)
    (enough : rest.length < fuel) :
    ∃ stretches : List (Stretch AnyBody source),
      ReadFrom before.length (routesFrom fuel (inWordAfter false before) rest) stretches := by
  induction fuel generalizing before rest with
  | zero => exact absurd enough (Nat.not_lt_zero _)
  | succ fuel ih =>
    cases rest with
    | nil =>
      have whole : source = before := text.trans (List.append_nil before)
      exact ⟨[], read_from_end (Nat.le_of_eq (congrArg List.length whole))⟩
    | cons c more =>
      rw [List.length_cons] at enough
      cases routes_from_step fuel (inWordAfter false before) c more with
      | inl read_here =>
        obtain ⟨call, after, outside, here, first, reading⟩ := read_here
        have fewer := congrArg List.length here
        rw [List.length_cons, List.length_append] at fewer
        have some_chars := call_not_empty call
        rw [here] at text
        let s : Stretch AnyBody source :=
          ⟨before, call, after, text, (not_in_word_after_iff before).mp outside⟩
        have behind : source = (before ++ call.chars) ++ after := by
          rw [text, List.append_assoc]
        obtain ⟨stretches, later⟩ := ih behind (by omega)
        rw [not_in_word_behind_call, List.length_append] at later
        rw [reading]
        exact ⟨s :: stretches, read_from_call s first later⟩
      | inr nothing_here =>
        obtain ⟨none_written, reading⟩ := nothing_here
        have none_here : ∀ t : Stretch AnyBody source, t.start ≠ before.length := by
          intro t here
          obtain ⟨same_before, written⟩ := t.starts_at text here
          have outside := (not_in_word_after_iff _).mpr t.boundary
          rw [same_before, none_written t.call t.after written] at outside
          cases outside
        have behind : source = (before ++ [c]) ++ more := by
          rw [text, List.append_assoc, List.singleton_append]
        obtain ⟨stretches, later⟩ := ih behind (by omega)
        rw [in_word_after_append, List.length_append] at later
        rw [reading]
        exact ⟨stretches, read_from_char none_here later⟩

/-- Every route of a text is read from a stretch of its own, in order and apart from one another, and
no call starts outside of them. The comments of a stretch are complete exactly if a call with complete
comments begins where it does. -/
theorem text_routes_stretches (source : String) :
    ∃ stretches : List (Stretch AnyBody source.toList),
      textRoutes source = stretches.map (·.call.route) ∧
        stretches.Pairwise (·.stop ≤ ·.start) ∧
        (∀ t : Stretch AnyBody source.toList, CoversStart stretches t) ∧
        ∀ s ∈ stretches,
          (∃ t : Stretch EndsFirst source.toList,
            t.start = s.start ∧ t.stop = s.stop ∧ t.call.route = s.call.route) ↔
          ∃ t : Stretch EndsFirst source.toList, t.start = s.start := by
  obtain ⟨stretches, read⟩ :=
    routes_from_stretches (List.nil_append source.toList).symm (Nat.lt_succ_self _)
  refine ⟨stretches, read.routes, read.in_order, fun t => read.covered t (Nat.zero_le _), ?_⟩
  intro s member
  constructor
  · rintro ⟨t, same_start, _⟩
    exact ⟨t, same_start⟩
  · rintro ⟨t, same_start⟩
    have first := t.first_read_of_complete
    exact ⟨t, same_start, Stretch.first_read_unique (read.first s member) first same_start⟩

/-! ### A call that is not one -/

theorem gap_passed (written : Gap EndsFirst) {isNext : Char → Bool} (mark : IsMark isNext) {c : Char}
    (is_next : isNext c = true) (after : Rest) :
    gap some (gapChars written ++ c :: after) = some (c :: after) :=
  gap_first written (gap_ends_at mark is_next after) rfl

namespace Stretch

theorem named (s : Stretch EndsFirst source) :
    s.start ≤ source.length ∧ callName.isPrefixOf (source.drop s.start) = true := by
  have bounded := s.stop_add_after
  rw [stop] at bounded
  refine ⟨by rw [start]; omega, ?_⟩
  rw [behind_start]
  exact List.isPrefixOf_iff_prefix.mpr (List.prefix_append _ _)

/-- A call with complete comments has its opening, and its first literal, right behind the gap that
the nearest end marks make. -/
theorem first_literal (s : Stretch EndsFirst source) :
    ∃ (rest : Rest) (l : Literal) (more : Rest),
      gap some (source.drop (s.start + 5)) = some ('(' :: rest) ∧
        gap some rest = some (l.chars ++ more) := by
  have opening_is_mark : IsMark (· = '(') := char_is_mark (by decide) (by decide)
  rw [s.behind_name, Call.argumentsThen]
  exact ⟨_, s.call.pattern, _, gap_passed s.call.beforeOpening opening_is_mark (by decide) _,
    gap_passed s.call.beforePattern quote_is_mark s.call.pattern.opens _⟩

end Stretch

def argumentBetweenComments : String := "route(/* was */ old, /* now */ \"/p\", \"p.tsx\")"

/-- The search goes past the first end mark and takes an argument for a part of a comment: no call in
the text begins with two literals, yet a route is read. -/
theorem argument_between_comments_skipped :
    textRoutes argumentBetweenComments = [.of "/p" "p.tsx"] ∧
      ¬ Nonempty (Stretch EndsFirst argumentBetweenComments.toList) := by
  refine ⟨by decide +kernel, ?_⟩
  rintro ⟨s⟩
  have only_name : ∀ n ≤ argumentBetweenComments.toList.length,
      callName.isPrefixOf (argumentBetweenComments.toList.drop n) = true → n = 0 := by
    decide +kernel
  have at_start : s.start = 0 := only_name s.start s.named.1 s.named.2
  obtain ⟨rest, l, more, opening, literal⟩ := s.first_literal
  rw [at_start] at opening
  have behind_opening : gap some (argumentBetweenComments.toList.drop 5) =
      some ('(' :: argumentBetweenComments.toList.drop 6) := by
    decide +kernel
  rw [behind_opening] at opening
  obtain rfl := (List.cons.inj (Option.some.inj opening)).2
  have behind_comment : gap some (argumentBetweenComments.toList.drop 6) =
      some ('o' :: argumentBetweenComments.toList.drop 17) := by
    decide +kernel
  rw [behind_comment] at literal
  have first_char : 'o' = l.opening := (List.cons.inj (Option.some.inj literal)).1
  have no_quote := l.opens
  rw [← first_char] at no_quote
  exact absurd no_quote (by decide)

end StorefrontSurvey.Routes
