import StorefrontSurvey.Routes.CallText
/-!
Gaps as texts. The search through a gap tries many ways: what it finds always stands behind blanks
and comments, and where it finds nothing no way leads to anything. A gap whose comments hold no end
mark is gone through at the first try. A comment that is tried later runs past end marks: there the
two readings part.
-/
namespace StorefrontSurvey.Routes

open Text (isBlank)

/-- A body with no end mark in it, nor one that begins in it and ends with the comment's own. -/
def EndsFirst (body : List Char) : Prop := ¬ ['*', '/'] <:+: body ++ ['*']

instance (body : List Char) : Decidable (EndsFirst body) :=
  inferInstanceAs (Decidable (¬ ['*', '/'] <:+: body ++ ['*']))

def AnyBody (_ : List Char) : Prop := True

/-- One blank, or one comment with a body of the kind asked for. -/
inductive Filler (IsBody : List Char → Prop) where
  | blank (c : Char) (is_blank : isBlank c = true)
  | comment (body : List Char) (is_body : IsBody body)

abbrev Gap (IsBody : List Char → Prop) := List (Filler IsBody)

variable {IsBody : List Char → Prop} {α : Type}

def Filler.chars : Filler IsBody → List Char
  | .blank c _ => [c]
  | .comment body _ => '/' :: '*' :: (body ++ ['*', '/'])

def gapChars (gap : Gap IsBody) : List Char := gap.flatMap Filler.chars

@[simp] theorem gap_chars_nil : gapChars ([] : Gap IsBody) = [] := rfl

@[simp] theorem gap_chars_cons (filler : Filler IsBody) (gap : Gap IsBody) :
    gapChars (filler :: gap) = filler.chars ++ gapChars gap := rfl

theorem filler_not_empty (filler : Filler IsBody) : 0 < filler.chars.length := by
  cases filler with
  | blank c is_blank => exact Nat.one_pos
  | comment body is_body => exact Nat.succ_pos _

/-! ### Comments -/

/-- An end mark closes some comment, whatever stands before it. -/
theorem end_mark_closes {after inside : Rest} (listed : after ∈ afterEndMarks inside) :
    ∃ body, inside = body ++ '*' :: '/' :: after := by
  induction inside using afterEndMarks.induct with
  | case1 rest ih =>
    rw [afterEndMarks] at listed
    cases List.mem_cons.mp listed with
    | inl nearest => exact ⟨[], by rw [nearest]; rfl⟩
    | inr later =>
      obtain ⟨body, text⟩ := ih later
      exact ⟨'*' :: body, by rw [text]; rfl⟩
  | case2 c rest no_mark ih =>
    rw [afterEndMarks.eq_2 _ _ no_mark] at listed
    obtain ⟨body, text⟩ := ih listed
    exact ⟨c :: body, by rw [text]; rfl⟩
  | case3 => exact absurd listed List.not_mem_nil

theorem ends_first_tail {c : Char} {body : List Char} (ends : EndsFirst (c :: body)) :
    EndsFirst body := by
  intro early
  apply ends
  exact List.infix_cons early

/-- The first end mark behind a body that holds none is the comment's own. -/
theorem own_end_mark_nearest {body : List Char} (ends : EndsFirst body) (after : Rest) :
    ∃ later, afterEndMarks (body ++ '*' :: '/' :: after) = after :: later := by
  induction body with
  | nil => exact ⟨_, rfl⟩
  | cons c body ih =>
    have no_mark : ∀ rest, c = '*' → body ++ '*' :: '/' :: after = '/' :: rest → False := by
      intro rest star slash
      cases body with
      | nil => exact absurd (List.cons.inj slash).1 (by decide)
      | cons next body =>
        have next_is : next = '/' := (List.cons.inj slash).1
        apply ends
        subst star next_is
        exact ⟨[], body ++ ['*'], rfl⟩
    rw [List.cons_append, afterEndMarks.eq_2 _ _ no_mark]
    exact ih (ends_first_tail ends)

/-! ### What the search finds -/

theorem first_found_attempt {attempt : Rest → List Nat → Option α × List Nat} {a : α}
    {rests : List Rest} {tried : List Nat} (success : (firstFound attempt rests tried).1 = some a) :
    ∃ rest ∈ rests, ∃ known, (attempt rest known).1 = some a := by
  induction rests generalizing tried with
  | nil => cases success
  | cons rest rests ih =>
    rw [firstFound] at success
    split at success
    case h_1 b known here =>
      exact ⟨rest, List.mem_cons_self, tried, by rw [here]; exact success⟩
    case h_2 known here =>
      obtain ⟨later, listed, found⟩ := ih success
      exact ⟨later, List.mem_cons_of_mem rest listed, found⟩

/-- Going on after the first thing of a gap means to go on after a blank or a comment. -/
theorem past_first_filler {onward : Rest → List Nat → Option α × List Nat} {a : α} {rest : Rest}
    {tried : List Nat} (success : (pastFirst onward rest tried).1 = some a) :
    ∃ (filler : Filler AnyBody) (after : Rest) (known : List Nat),
      rest = filler.chars ++ after ∧ (onward after known).1 = some a := by
  unfold pastFirst at success
  split at success
  case h_1 inside =>
    obtain ⟨after, listed, known, found⟩ := first_found_attempt success
    obtain ⟨body, text⟩ := end_mark_closes listed
    refine ⟨.comment body trivial, after, known, ?_, found⟩
    simp [Filler.chars, text]
  case h_2 c more no_comment =>
    split at success
    case isTrue is_blank => exact ⟨.blank c is_blank, more, tried, rfl, success⟩
    case isFalse => cases success
  case h_3 => cases success

theorem through_gap_sound {found : Rest → Option α} {a : α} {fuel : Nat} {rest : Rest}
    {tried : List Nat} (success : (throughGap found fuel rest tried).1 = some a) :
    ∃ (gap : Gap AnyBody) (after : Rest), rest = gapChars gap ++ after ∧ found after = some a := by
  induction fuel generalizing rest tried with
  | zero => cases success
  | succ fuel ih =>
    rw [throughGap] at success
    split at success
    case isTrue => cases success
    case isFalse =>
      split at success
      case h_1 b known deeper =>
        have deeper : (pastFirst (throughGap found fuel) rest tried).1 = some a := by
          rw [deeper]
          exact success
        obtain ⟨filler, more, known, text, onward⟩ := past_first_filler deeper
        obtain ⟨gap, after, rest_text, here⟩ := ih onward
        refine ⟨filler :: gap, after, ?_, here⟩
        rw [text, rest_text, gap_chars_cons, List.append_assoc]
      case h_2 =>
        split at success
        case h_1 b here =>
          cases success
          exact ⟨[], rest, rfl, here⟩
        case h_2 => cases success

/-- What is found behind a gap stands behind blanks and comments. -/
theorem gap_sound {found : Rest → Option α} {rest : Rest} {a : α} (success : gap found rest = some a) :
    ∃ (gap : Gap AnyBody) (after : Rest), rest = gapChars gap ++ after ∧ found after = some a :=
  through_gap_sound success

/-! ### What the search finds first -/

/-- Nothing of a gap begins here. -/
def GapEnds (after : Rest) : Prop := ∀ c, after.head? = some c → isBlank c = false ∧ c ≠ '/'

theorem past_first_comment (onward : Rest → List Nat → Option α × List Nat) (inside : Rest)
    (tried : List Nat) :
    pastFirst onward ('/' :: '*' :: inside) tried = firstFound onward (afterEndMarks inside) tried :=
  rfl

theorem past_first_cons {onward : Rest → List Nat → Option α × List Nat} {tried : List Nat} {c : Char}
    {more : Rest} (no_comment : ∀ inside, c :: more ≠ '/' :: '*' :: inside) :
    pastFirst onward (c :: more) tried = if isBlank c then onward more tried else (none, tried) := by
  unfold pastFirst
  split
  case h_1 inside text => exact absurd text (no_comment inside)
  case h_2 text => cases text; rfl
  case h_3 text => cases text

theorem past_first_none {after : Rest} (ends : GapEnds after)
    (onward : Rest → List Nat → Option α × List Nat) (tried : List Nat) :
    pastFirst onward after tried = (none, tried) := by
  cases after with
  | nil => rfl
  | cons c more =>
    obtain ⟨not_blank, not_slash⟩ := ends c rfl
    rw [past_first_cons (fun inside text => not_slash (List.cons.inj text).1), not_blank]
    rfl

/-- Past the first thing of a gap, the search goes on right behind it. -/
theorem past_first_of_filler {onward : Rest → List Nat → Option α × List Nat} {a : α}
    {tried known : List Nat} {after : Rest} (filler : Filler EndsFirst)
    (success : onward after tried = (some a, known)) :
    pastFirst onward (filler.chars ++ after) tried = (some a, known) := by
  cases filler with
  | blank c is_blank =>
    have no_comment : ∀ inside, c :: after ≠ '/' :: '*' :: inside := by
      intro inside text
      rw [(List.cons.inj text).1] at is_blank
      exact absurd is_blank (by decide)
    rw [Filler.chars, List.singleton_append, past_first_cons no_comment, is_blank, if_pos rfl, success]
  | comment body ends =>
    obtain ⟨later, marks⟩ := own_end_mark_nearest ends after
    have text : Filler.chars (.comment body ends) ++ after =
        '/' :: '*' :: (body ++ '*' :: '/' :: after) := by
      simp [Filler.chars]
    rw [text, past_first_comment, marks, firstFound, success]

theorem through_gap_first {found : Rest → Option α} {a : α} {after : Rest} (gap : Gap EndsFirst)
    (ends : GapEnds after) (success : found after = some a) {fuel : Nat}
    (enough : (gapChars gap).length < fuel) :
    throughGap found fuel (gapChars gap ++ after) [] = (some a, []) := by
  induction gap generalizing fuel with
  | nil =>
    obtain ⟨fuel, rfl⟩ := Nat.exists_eq_add_one_of_ne_zero (Nat.ne_zero_of_lt enough)
    rw [gap_chars_nil, List.nil_append, throughGap, past_first_none ends, success]
    rfl
  | cons filler gap ih =>
    obtain ⟨fuel, rfl⟩ := Nat.exists_eq_add_one_of_ne_zero (Nat.ne_zero_of_lt enough)
    have onward : throughGap found fuel (gapChars gap ++ after) [] = (some a, []) := by
      apply ih
      have := filler_not_empty filler
      rw [gap_chars_cons, List.length_append] at enough
      omega
    rw [gap_chars_cons, List.append_assoc, throughGap, past_first_of_filler filler onward]
    rfl

/-- A gap whose comments hold no end mark is gone through as it is written. -/
theorem gap_first {found : Rest → Option α} {a : α} {after : Rest} (gap : Gap EndsFirst)
    (ends : GapEnds after) (success : found after = some a) :
    Routes.gap found (gapChars gap ++ after) = some a := by
  have enough : (gapChars gap).length < (gapChars gap ++ after).length + 1 := by
    rw [List.length_append]
    omega
  rw [Routes.gap, through_gap_first gap ends success enough]

/-! ### What the search does not find -/

/-- No way through a gap leads from here to what is looked for. -/
def Fruitless (found : Rest → Option α) (rest : Rest) : Prop :=
  ∀ (gap : Gap AnyBody) (after : Rest), rest = gapChars gap ++ after → found after = none

/-- The lengths that are held as failed are those of fruitless rests of one text. -/
def OnlyFruitless (found : Rest → Option α) (source : Rest) (tried : List Nat) : Prop :=
  ∀ rest, rest <:+ source → rest.length ∈ tried → Fruitless found rest

/-- A search that, where it finds nothing, has tried all there was to try. -/
def Thorough (found : Rest → Option α) (source : Rest)
    (attempt : Rest → List Nat → Option α × List Nat) (rest : Rest) : Prop :=
  ∀ tried left, OnlyFruitless found source tried → attempt rest tried = (none, left) →
    OnlyFruitless found source left ∧ Fruitless found rest

variable {found : Rest → Option α} {source : Rest}

theorem end_marks_of_tail {after text : Rest} (c : Char) (listed : after ∈ afterEndMarks text) :
    after ∈ afterEndMarks (c :: text) := by
  by_cases closes : ∃ rest, c = '*' ∧ text = '/' :: rest
  · obtain ⟨rest, rfl, rfl⟩ := closes
    rw [afterEndMarks]
    exact List.mem_cons_of_mem _ listed
  · rw [afterEndMarks.eq_2 c text fun rest star slash => closes ⟨rest, star, slash⟩]
    exact listed

theorem end_mark_listed (body : List Char) (after : Rest) :
    after ∈ afterEndMarks (body ++ '*' :: '/' :: after) := by
  induction body with
  | nil => exact List.mem_cons_self
  | cons c body ih => exact end_marks_of_tail c ih

theorem fruitless_of_fillers {rest : Rest} (not_here : found rest = none)
    (onward : ∀ (filler : Filler AnyBody) (after : Rest), rest = filler.chars ++ after →
      Fruitless found after) : Fruitless found rest := by
  intro gap after text
  cases gap with
  | nil =>
    obtain rfl : rest = after := text
    exact not_here
  | cons filler gap =>
    rw [gap_chars_cons, List.append_assoc] at text
    exact onward filler _ text gap after rfl

theorem first_found_thorough {attempt : Rest → List Nat → Option α × List Nat} {rests : List Rest}
    (thorough : ∀ rest ∈ rests, Thorough found source attempt rest) {tried left : List Nat}
    (known : OnlyFruitless found source tried)
    (failed : firstFound attempt rests tried = (none, left)) :
    OnlyFruitless found source left ∧ ∀ rest ∈ rests, Fruitless found rest := by
  induction rests generalizing tried with
  | nil =>
    cases failed
    exact ⟨known, fun rest none => absurd none List.not_mem_nil⟩
  | cons rest rests ih =>
    obtain ⟨here, later⟩ := List.forall_mem_cons.mp thorough
    rw [firstFound] at failed
    split at failed
    case h_1 => cases failed
    case h_2 more tried_here =>
      obtain ⟨known_here, fruitless⟩ := here tried more known tried_here
      obtain ⟨known_left, others⟩ := ih later known_here failed
      exact ⟨known_left, List.forall_mem_cons.mpr ⟨fruitless, others⟩⟩

/-- Going on after the first thing of a gap is thorough where going on after each blank and each
comment is. -/
theorem past_first_thorough {onward : Rest → List Nat → Option α × List Nat} {rest : Rest}
    (thorough : ∀ (filler : Filler AnyBody) (after : Rest), rest = filler.chars ++ after →
      Thorough found source onward after) {tried left : List Nat}
    (known : OnlyFruitless found source tried)
    (failed : pastFirst onward rest tried = (none, left)) :
    OnlyFruitless found source left ∧ ∀ (filler : Filler AnyBody) (after : Rest),
      rest = filler.chars ++ after → Fruitless found after := by
  unfold pastFirst at failed
  split at failed
  case h_1 inside =>
    have each : ∀ after ∈ afterEndMarks inside, Thorough found source onward after := by
      intro after listed
      obtain ⟨body, text⟩ := end_mark_closes listed
      apply thorough (.comment body trivial)
      simp [Filler.chars, text]
    obtain ⟨known_left, fruitless⟩ := first_found_thorough each known failed
    refine ⟨known_left, ?_⟩
    intro filler after text
    cases filler with
    | blank c is_blank =>
      obtain rfl : '/' = c := (List.cons.inj text).1
      exact absurd is_blank (by decide)
    | comment body _ =>
      apply fruitless
      obtain rfl : inside = body ++ '*' :: '/' :: after := by
        simpa [Filler.chars] using text
      exact end_mark_listed body after
  case h_2 c more no_comment =>
    have only_blank : ∀ (filler : Filler AnyBody) (after : Rest), c :: more = filler.chars ++ after →
        isBlank c = true ∧ more = after := by
      intro filler after text
      cases filler with
      | blank d is_blank =>
        obtain ⟨rfl, rfl⟩ := List.cons.inj text
        exact ⟨is_blank, rfl⟩
      | comment body _ =>
        obtain ⟨slash, inside⟩ := List.cons.inj text
        exact absurd inside (no_comment _ slash)
    split at failed
    case isTrue is_blank =>
      obtain ⟨known_left, fruitless⟩ :=
        thorough (.blank c is_blank) more rfl tried left known failed
      refine ⟨known_left, ?_⟩
      intro filler after text
      exact (only_blank filler after text).2 ▸ fruitless
    case isFalse not_blank =>
      cases failed
      exact ⟨known, fun filler after text => absurd (only_blank filler after text).1 not_blank⟩
  case h_3 =>
    cases failed
    refine ⟨known, ?_⟩
    intro filler after text
    have no_chars := congrArg List.length text
    have some_chars := filler_not_empty filler
    rw [List.length_nil, List.length_append] at no_chars
    omega

/-- The search through a gap is thorough: what it holds as failed has failed for good, as it is the
rest alone that an attempt depends on. -/
theorem through_gap_thorough {fuel : Nat} {rest : Rest} (part : rest <:+ source)
    (enough : rest.length < fuel) : Thorough found source (throughGap found fuel) rest := by
  induction fuel generalizing rest with
  | zero => exact absurd enough (Nat.not_lt_zero _)
  | succ fuel ih =>
    intro tried left known failed
    rw [throughGap] at failed
    split at failed
    case isTrue held =>
      cases failed
      exact ⟨known, known rest part (List.contains_iff_mem.mp held)⟩
    case isFalse =>
      split at failed
      case h_1 => cases failed
      case h_2 tried_onward onward =>
        split at failed
        case h_1 => cases failed
        case h_2 not_here =>
          cases failed
          have each : ∀ (filler : Filler AnyBody) (after : Rest), rest = filler.chars ++ after →
              Thorough found source (throughGap found fuel) after := by
            intro filler after text
            have shorter := filler_not_empty filler
            have length := congrArg List.length text
            rw [List.length_append] at length
            apply ih
            · exact (List.IsSuffix.trans ⟨filler.chars, text.symm⟩ part)
            · omega
          obtain ⟨known_onward, fruitless⟩ := past_first_thorough each known onward
          have here := fruitless_of_fillers not_here fruitless
          refine ⟨?_, here⟩
          intro other other_part member
          cases List.mem_cons.mp member with
          | inl same_length =>
            have same : other = rest := by
              have within := List.suffix_of_suffix_length_le other_part part (Nat.le_of_eq same_length)
              exact within.eq_of_length same_length
            exact same ▸ here
          | inr before => exact known_onward other other_part before

/-- Behind a gap nothing is found exactly if no way through it leads to anything. -/
theorem gap_none_iff (rest : Rest) : gap found rest = none ↔ Fruitless found rest := by
  constructor
  · intro failed
    have nothing_held : OnlyFruitless found rest [] := fun _ _ none => absurd none List.not_mem_nil
    have thorough : Thorough found rest (throughGap found (rest.length + 1)) rest :=
      through_gap_thorough List.suffix_rfl (Nat.lt_succ_self _)
    exact (thorough [] _ nothing_held (Prod.ext failed rfl)).2
  · intro fruitless
    cases success : gap found rest with
    | none => rfl
    | some a =>
      obtain ⟨way, after, text, here⟩ := gap_sound success
      rw [fruitless way after text] at here
      cases here

end StorefrontSurvey.Routes
