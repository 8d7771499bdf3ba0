import StorefrontSurvey.Proofs.Routes.Gaps
/-!
Calls of `route` as they are written in a text: two literals with gaps around them. Whatever is read
as a call was written as one, up to where its comments end; and calls whose comments hold no end
mark are all read back from a text that holds nothing else named like them.
-/
namespace StorefrontSurvey.Routes

open Text (isBlank isWordChar)

variable {IsBody : List Char → Prop} {α : Type}

/-! ### Literals -/

structure Literal where
  opening : Char
  text : List Char
  closing : Char
  opens : isQuote opening = true
  not_empty : text ≠ []
  quote_free : text.any isQuote = false
  closes : isQuote closing = true

def Literal.chars (l : Literal) : List Char := l.opening :: (l.text ++ [l.closing])

/-- A token's first character, which no gap could take for its own. -/
def IsMark (isNext : Char → Bool) : Prop := ∀ c, isNext c = true → isBlank c = false ∧ c ≠ '/'

theorem quote_is_mark : IsMark isQuote := by
  intro c quote
  simp only [isQuote, Bool.or_eq_true, decide_eq_true_eq] at quote
  obtain (rfl | rfl) | rfl := quote <;> decide

theorem char_is_mark {d : Char} (not_blank : isBlank d = false) (not_slash : d ≠ '/') :
    IsMark (· = d) := by
  intro c same
  rw [of_decide_eq_true same]
  exact ⟨not_blank, not_slash⟩

theorem end_is_mark : IsMark (fun c => c = ',' || c = ')') := by
  intro c last
  simp only [Bool.or_eq_true, decide_eq_true_eq] at last
  obtain rfl | rfl := last <;> decide

theorem gap_ends_at {isNext : Char → Bool} (mark : IsMark isNext) {c : Char} (is_next : isNext c = true)
    (after : Rest) : GapEnds (c :: after) := by
  intro d head
  obtain rfl := Option.some.inj head
  exact mark _ is_next

theorem gap_then_sound {isNext : Char → Bool} {found : Rest → Option α} {rest : Rest} {a : α}
    (success : gapThen isNext found rest = some a) :
    ∃ (gap : Gap AnyBody) (c : Char) (after : Rest),
      rest = gapChars gap ++ c :: after ∧ isNext c = true ∧ found after = some a := by
  obtain ⟨gap, next, text, here⟩ := gap_sound success
  split at here
  case h_1 c after =>
    split at here
    case isTrue is_next => exact ⟨gap, c, after, text, is_next, here⟩
    case isFalse => cases here
  case h_2 => cases here

theorem gap_then_first {isNext : Char → Bool} (mark : IsMark isNext) {found : Rest → Option α} {a : α}
    (gap : Gap EndsFirst) {c : Char} (is_next : isNext c = true) {after : Rest}
    (success : found after = some a) :
    gapThen isNext found (gapChars gap ++ c :: after) = some a := by
  apply gap_first gap (gap_ends_at mark is_next after)
  simp only [is_next, if_pos, success]

theorem gap_then_complete {isNext : Char → Bool} {found : Rest → Option α} (gap : Gap AnyBody)
    {c : Char} (is_next : isNext c = true) {after : Rest} (some_way : found after ≠ none) :
    gapThen isNext found (gapChars gap ++ c :: after) ≠ none := by
  intro failed
  have fruitless := (gap_none_iff _).mp failed gap (c :: after) rfl
  simp only [is_next, if_pos] at fruitless
  exact some_way fruitless

theorem literal_taken (l : Literal) (after : Rest) :
    (l.text ++ l.closing :: after).takeWhile (!isQuote ·) = l.text := by
  rw [List.takeWhile_append_of_pos]
  · simp [l.closes]
  · intro c member
    simp [List.any_eq_false.mp l.quote_free c member]

theorem quoted_sound {found : String → Rest → Option α} {rest : Rest} {a : α}
    (success : quoted found rest = some a) :
    ∃ (gap : Gap AnyBody) (l : Literal) (after : Rest),
      rest = gapChars gap ++ (l.chars ++ after) ∧ found (String.ofList l.text) after = some a := by
  obtain ⟨gap, opening, r, text, opens, here⟩ := gap_then_sound success
  have split_at := List.takeWhile_append_dropWhile (p := (!isQuote ·)) (l := r)
  have rest_of : r.drop (r.takeWhile (!isQuote ·)).length = r.dropWhile (!isQuote ·) :=
    (congrArg (List.drop _) split_at.symm).trans List.drop_left
  simp only [rest_of] at here
  split at here
  case h_1 closing after behind =>
    split at here
    case isTrue => cases here
    case isFalse not_empty =>
      have closes : isQuote closing = true := by
        have := List.head?_dropWhile_not (!isQuote ·) r
        rw [behind] at this
        simpa using this
      refine ⟨gap, ⟨opening, r.takeWhile (!isQuote ·), closing, opens, ?_, ?_, closes⟩, after, ?_, here⟩
      · intro empty
        exact not_empty (List.isEmpty_iff.mpr empty)
      · apply List.any_eq_false.mpr
        intro c member
        have inside := List.all_eq_true.mp List.all_takeWhile c member
        simpa using inside
      · rw [behind] at split_at
        simp [text, Literal.chars, split_at]
  case h_2 => cases here

theorem quoted_first {found : String → Rest → Option α} {a : α} (gap : Gap EndsFirst) (l : Literal)
    {after : Rest} (success : found (String.ofList l.text) after = some a) :
    quoted found (gapChars gap ++ (l.chars ++ after)) = some a := by
  rw [Literal.chars, List.cons_append, List.append_assoc, List.singleton_append]
  apply gap_then_first quote_is_mark gap l.opens
  simp only [literal_taken, List.drop_left, List.isEmpty_iff, if_neg l.not_empty, success]

theorem quoted_complete {found : String → Rest → Option α} (gap : Gap AnyBody) (l : Literal)
    {after : Rest} (some_way : found (String.ofList l.text) after ≠ none) :
    quoted found (gapChars gap ++ (l.chars ++ after)) ≠ none := by
  rw [Literal.chars, List.cons_append, List.append_assoc, List.singleton_append]
  apply gap_then_complete gap l.opens
  simpa only [literal_taken, List.drop_left, List.isEmpty_iff, if_neg l.not_empty] using some_way

/-! ### Calls -/

def callName : List Char := ['r', 'o', 'u', 't', 'e']

theorem call_name_eq : "route".toList = callName := by decide +kernel

/-- A call of `route` from its name to the mark behind its second literal. -/
structure Call (IsBody : List Char → Prop) where
  beforeOpening : Gap IsBody
  beforePattern : Gap IsBody
  pattern : Literal
  beforeComma : Gap IsBody
  beforeFile : Gap IsBody
  file : Literal
  beforeEnding : Gap IsBody
  ending : Char
  ends : (ending = ',' || ending = ')') = true

namespace Call

/-- The call without its name, and what stands behind it. -/
def argumentsThen (call : Call IsBody) (after : List Char) : List Char :=
  gapChars call.beforeOpening ++ '(' :: (gapChars call.beforePattern ++ (call.pattern.chars ++
    (gapChars call.beforeComma ++ ',' :: (gapChars call.beforeFile ++ (call.file.chars ++
      (gapChars call.beforeEnding ++ call.ending :: after))))))

def chars (call : Call IsBody) : List Char := callName ++ call.argumentsThen []

def route (call : Call IsBody) : Route :=
  .of (String.ofList call.pattern.text) (String.ofList call.file.text)

theorem arguments_then_append (call : Call IsBody) (after more : List Char) :
    call.argumentsThen (after ++ more) = call.argumentsThen after ++ more := by
  simp [argumentsThen]

theorem chars_append (call : Call IsBody) (after : List Char) :
    call.chars ++ after = callName ++ call.argumentsThen after := by
  rw [chars, List.append_assoc, ← arguments_then_append, List.nil_append]

end Call

/-- What is read behind the name of a call is a call, whose comments end somewhere. -/
theorem call_after_name_sound {rest after : Rest} {route : Route}
    (read : callAfterName? rest = some (route, after)) :
    ∃ call : Call AnyBody, rest = call.argumentsThen after ∧ route = call.route := by
  obtain ⟨beforeOpening, c, _, rfl, opens, arguments⟩ := gap_then_sound read
  obtain rfl : c = '(' := of_decide_eq_true opens
  obtain ⟨beforePattern, pattern, _, rfl, behind_pattern⟩ := quoted_sound arguments
  obtain ⟨beforeComma, c, _, rfl, comma, behind_comma⟩ := gap_then_sound behind_pattern
  obtain rfl : c = ',' := of_decide_eq_true comma
  obtain ⟨beforeFile, file, _, rfl, behind_file⟩ := quoted_sound behind_comma
  obtain ⟨beforeEnding, ending, _, rfl, ends, behind_call⟩ := gap_then_sound behind_file
  cases behind_call
  exact ⟨⟨beforeOpening, beforePattern, pattern, beforeComma, beforeFile, file, beforeEnding, ending,
    ends⟩, rfl, rfl⟩

/-- A call whose comments hold no end mark is read as it is written, whatever stands behind it. -/
theorem call_after_name_first (call : Call EndsFirst) (after : Rest) :
    callAfterName? (call.argumentsThen after) = some (call.route, after) := by
  apply gap_then_first (char_is_mark (by decide) (by decide)) _ (by decide)
  apply quoted_first
  apply gap_then_first (char_is_mark (by decide) (by decide)) _ (by decide)
  apply quoted_first
  apply gap_then_first end_is_mark _ call.ends
  rfl

/-- Where a call is written, one is read, though its comments may end elsewhere. -/
theorem call_after_name_complete (call : Call AnyBody) (after : Rest) :
    callAfterName? (call.argumentsThen after) ≠ none := by
  apply gap_then_complete _ (by decide)
  apply quoted_complete
  apply gap_then_complete _ (by decide)
  apply quoted_complete
  apply gap_then_complete _ call.ends
  exact Option.some_ne_none _

theorem ending_no_word_char (call : Call IsBody) : isWordChar call.ending = false := by
  have ends := call.ends
  simp only [Bool.or_eq_true, decide_eq_true_eq] at ends
  obtain ending | ending := ends <;> rw [ending] <;> decide +kernel

/-! ### One call after another -/

/-- No word goes on behind the text. -/
def EndsOutsideWord (text : List Char) : Prop := ∀ c, text.getLast? = some c → isWordChar c = false

/-- A text between calls: it does not hold their name, and ends in no word. -/
structure Separator where
  chars : List Char
  no_name : ¬ callName <:+: chars
  ends : EndsOutsideWord chars

/-- Whether a word character stands before what follows a text. -/
def inWordAfter (afterWord : Bool) (text : List Char) : Bool :=
  (text.getLast?.map isWordChar).getD afterWord

theorem in_word_after_cons (afterWord : Bool) (c : Char) (text : List Char) :
    inWordAfter afterWord (c :: text) = inWordAfter (isWordChar c) text := by
  cases text with
  | nil => rfl
  | cons d text => simp only [inWordAfter, List.getLast?_cons, Option.map_some, Option.getD_some]

theorem not_in_word_after_iff (text : List Char) :
    inWordAfter false text = false ↔ EndsOutsideWord text := by
  unfold inWordAfter EndsOutsideWord
  cases text.getLast? with
  | none => simp
  | some c => simp

theorem name_of_word_chars : callName.all isWordChar = true := by decide +kernel

/-- No name begins in a text between calls: it would be held by the text, or the text would end in
its first letters. -/
theorem no_name_begins (s : Separator) {before after : List Char} (text : s.chars = before ++ after)
    (not_empty : after ≠ []) (rest : List Char) : ¬ callName <+: after ++ rest := by
  intro name
  cases List.prefix_or_prefix_of_prefix name (List.prefix_append after rest) with
  | inl held =>
    apply s.no_name
    rw [text]
    exact held.isInfix.trans (List.suffix_append before after).isInfix
  | inr begun =>
    have last := List.getLast?_eq_some_getLast not_empty
    have member : after.getLast not_empty ∈ callName :=
      begun.subset (List.getLast_mem not_empty)
    have outside : isWordChar (after.getLast not_empty) = false := by
      apply s.ends
      rw [text, List.getLast?_append, last, Option.some_or]
    rw [List.all_eq_true.mp name_of_word_chars _ member] at outside
    cases outside

/-- Where no name begins, nothing is read. -/
theorem routes_from_skips {text rest : List Char}
    (no_name : ∀ before after, text = before ++ after → after ≠ [] →
      ¬ callName <+: after ++ rest) (fuel : Nat) (afterWord : Bool) :
    routesFrom (text.length + fuel) afterWord (text ++ rest) =
      routesFrom fuel (inWordAfter afterWord text) rest := by
  induction text generalizing afterWord with
  | nil => rw [List.length_nil, Nat.zero_add]; rfl
  | cons c text ih =>
    have not_here : callName.isPrefixOf (c :: (text ++ rest)) = false := by
      rw [Bool.eq_false_iff]
      intro name
      exact no_name [] (c :: text) rfl (List.cons_ne_nil c text) (List.isPrefixOf_iff_prefix.mp name)
    have later : ∀ before after, text = before ++ after → after ≠ [] →
        ¬ callName <+: after ++ rest := by
      intro before after parts
      exact no_name (c :: before) after (by rw [parts]; rfl)
    rw [List.length_cons, Nat.succ_add, List.cons_append, routesFrom]
    simp only [call_name_eq, not_here, Bool.and_false, Bool.false_eq_true, if_false]
    rw [ih later, in_word_after_cons]

/-- A call is read where no word goes on, and the reading goes on right behind it. -/
theorem routes_from_call {call : Call IsBody} {after : List Char}
    (read : callAfterName? (call.argumentsThen after) = some (call.route, after)) (fuel : Nat) :
    routesFrom (fuel + 1) false (call.chars ++ after) = call.route :: routesFrom fuel false after := by
  have name : callName.isPrefixOf (callName ++ call.argumentsThen after) = true :=
    List.isPrefixOf_iff_prefix.mpr (List.prefix_append callName _)
  have behind : (callName ++ call.argumentsThen after).drop 5 = call.argumentsThen after := rfl
  rw [Call.chars_append]
  rw [callName, List.cons_append] at name behind ⊢
  rw [routesFrom]
  simp only [call_name_eq, callName, name, behind, read, Bool.not_false, Bool.and_self, if_true]

/-- Calls one after another, each behind a text of its own, and a text behind the last of them. -/
def written (calls : List (Separator × Call IsBody)) (last : Separator) : List Char :=
  calls.flatMap (fun part => part.1.chars ++ part.2.chars) ++ last.chars

theorem written_cons (separator : Separator) (call : Call IsBody)
    (calls : List (Separator × Call IsBody)) (last : Separator) :
    written ((separator, call) :: calls) last =
      separator.chars ++ (call.chars ++ written calls last) := by
  simp only [written, List.flatMap_cons, List.append_assoc]

theorem call_not_empty (call : Call IsBody) : 0 < call.chars.length := by
  rw [Call.chars, List.length_append]
  exact Nat.add_pos_left (by decide) _

theorem routes_from_separator (s : Separator) {rest : List Char} {fuel : Nat}
    (enough : (s.chars ++ rest).length < fuel) :
    ∃ left, rest.length < left ∧ routesFrom fuel false (s.chars ++ rest) = routesFrom left false rest := by
  rw [List.length_append] at enough
  obtain ⟨left, rfl⟩ := Nat.exists_eq_add_of_le (Nat.le_of_lt (Nat.lt_of_add_right_lt enough))
  refine ⟨left, by omega, ?_⟩
  rw [routes_from_skips (fun before after text not_empty => no_name_begins s text not_empty rest),
    (not_in_word_after_iff _).mpr s.ends]

/-- Reading a text call by call: each separator is passed over, each call is read whole. -/
theorem routes_from_written (calls : List (Separator × Call EndsFirst)) (last : Separator)
    {fuel : Nat} (enough : (written calls last).length < fuel) :
    routesFrom fuel false (written calls last) = calls.map (·.2.route) := by
  induction calls generalizing fuel with
  | nil =>
    have text : written ([] : List (Separator × Call EndsFirst)) last = last.chars ++ [] :=
      (List.append_nil _).symm
    rw [text] at enough ⊢
    obtain ⟨left, positive, skipped⟩ := routes_from_separator last enough
    obtain ⟨left, rfl⟩ := Nat.exists_eq_add_one_of_ne_zero (Nat.ne_zero_of_lt positive)
    rw [skipped]
    rfl
  | cons part calls ih =>
    obtain ⟨separator, call⟩ := part
    rw [written_cons] at enough ⊢
    obtain ⟨left, remains, skipped⟩ := routes_from_separator separator enough
    obtain ⟨left, rfl⟩ := Nat.exists_eq_add_one_of_ne_zero (Nat.ne_zero_of_lt remains)
    have enough_behind : (written calls last).length < left := by
      have := call_not_empty call
      rw [List.length_append] at remains
      omega
    rw [skipped, routes_from_call (call_after_name_first call _), ih enough_behind]
    rfl

/-- A text of calls lists exactly their routes, in order, whatever their comments hold. -/
theorem text_routes_written (calls : List (Separator × Call EndsFirst)) (last : Separator) :
    textRoutes (String.ofList (written calls last)) = calls.map (·.2.route) := by
  rw [textRoutes, String.toList_ofList]
  exact routes_from_written calls last (Nat.lt_succ_self _)

/-- A call with another one in a comment, and with a quote and an opening in the next. -/
def commentedCall : Call EndsFirst where
  beforeOpening := [.comment " route('a', 'b') ".toList (by decide +kernel), .blank ' ' rfl]
  beforePattern := []
  pattern := ⟨'\'', "/p".toList, '\'', rfl, by decide +kernel, by decide +kernel, rfl⟩
  beforeComma := []
  beforeFile := [.comment " \" ( *".toList (by decide +kernel), .blank '\n' rfl]
  file := ⟨'\x60', "p.tsx".toList, '"', rfl, by decide +kernel, by decide +kernel, rfl⟩
  beforeEnding := []
  ending := ')'
  ends := rfl

def separatorBracket : Separator :=
  ⟨['['], by decide +kernel, (not_in_word_after_iff ['[']).mp (by decide +kernel)⟩

def commentedText : String :=
  "[route/* route('a', 'b') */ ('/p',/* \" ( **/\n\x60p.tsx\")["

theorem commented_call_read : textRoutes commentedText = [.of "/p" "p.tsx"] := by
  have text : commentedText = String.ofList (written [(separatorBracket, commentedCall)]
      separatorBracket) := by
    decide +kernel
  calc textRoutes commentedText
      = textRoutes (String.ofList (written [(separatorBracket, commentedCall)] separatorBracket)) :=
        congrArg textRoutes text
    _ = [commentedCall.route] := text_routes_written _ _
    _ = [.of "/p" "p.tsx"] := by decide +kernel

end StorefrontSurvey.Routes
