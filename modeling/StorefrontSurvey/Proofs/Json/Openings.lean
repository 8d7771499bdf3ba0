import Mathlib.Data.List.TakeWhile
import Mathlib.Tactic.SplitIfs
import StorefrontSurvey.Json.Reader
/-!
How much of a JSON text the characters at its front tell. Only a text that opens a list, or an
object with a member, can be nested too deeply or hold an object with members.
-/
namespace StorefrontSurvey.Json

open Text (Point Wide)

/-- A text in which something is nested, from its first character on. -/
inductive Nests : List Char → Prop
  | list (rest : List Char) : Nests ('[' :: rest)
  | object {blanks : List Char} (blank : ∀ c ∈ blanks, Cursor.isBlank c = true)
      (rest : List Char) : Nests ('\x7b' :: (blanks ++ '"' :: rest))

/-- A text in which something is nested, once blanks are passed over. -/
def Opens (text : List Char) : Prop :=
  ∃ blanks rest, (∀ c ∈ blanks, Cursor.isBlank c = true) ∧ text = blanks ++ rest ∧ Nests rest

theorem skip_blank_text (c : Cursor) :
    ∃ blanks, (∀ b ∈ blanks, Cursor.isBlank b = true) ∧ c.text = blanks ++ c.skipBlank.text := by
  obtain ⟨position, text⟩ := c
  refine ⟨text.takeWhile Cursor.isBlank, fun b member => List.mem_takeWhile_imp member, ?_⟩
  exact (List.prefix_iff_eq_append.1 (List.takeWhile_prefix Cursor.isBlank)).symm

/-! ### Faults -/

/-- A text may still be read in another way if it is refused. -/
def Passing {α : Type} (outcome : Except ReadFault α) : Prop :=
  ∀ fault, outcome = .error fault → fault.isFinal = false

namespace Passing

variable {α : Type} {condition : Prop} [Decidable condition] {yes no : Except ReadFault α}

theorem ok (a : α) : Passing (.ok a) := fun _ failed => by cases failed

theorem at_place (kind : FaultKind) (position : Nat) :
    Passing (.error (.at kind position) : Except ReadFault α) := by
  rintro fault ⟨⟩
  rfl

theorem ite (first : Passing yes) (second : Passing no) :
    Passing (if condition then yes else no) := by
  split
  · exact first
  · exact second

end Passing

theorem read_code_point_passing (c : Cursor) : Passing (readCodePoint c) := by
  refine .ite (.at_place _ _) ?_
  split
  · exact .at_place _ _
  · refine .ite ?_ (.ok _)
    split
    · refine .ite (.ok _) ?_
      split
      · exact .at_place _ _
      · exact .ite (.ok _) (.ok _)
    · exact .ok _

theorem read_string_passing (start fuel : Nat) (read : Wide) (c : Cursor) :
    Passing (readString start fuel read c) := by
  induction fuel generalizing read c with
  | zero => exact .at_place _ _
  | succ fuel ih =>
      rw [readString.eq_def]
      dsimp only
      split
      · exact .at_place _ _
      · exact .ok _
      · exact .at_place _ _
      · split
        case h_1 fault failed =>
          rintro other ⟨⟩
          exact read_code_point_passing c fault failed
        case h_2 => exact ih _ _
      · split
        · exact ih _ _
        · exact .at_place _ _
      · exact .ite (.at_place _ _) (ih _ _)

/-! ### Values -/

/-- A value is no object with members. -/
def Raw.Bare (j : Raw) : Prop := ∀ members, j = .obj members → members = []

/-- What comes of a text in which nothing is nested. -/
structure Flat (outcome : Read Raw) : Prop where
  passing : Passing outcome
  bare : ∀ j after, outcome = .ok (j, after) → j.Bare

namespace Flat

variable {condition : Prop} [Decidable condition] {yes no : Read Raw}

theorem fault {f : ReadFault} (passing : f.isFinal = false) : Flat (.error f) where
  passing other failed := by
    obtain rfl := Except.error.inj failed
    exact passing
  bare _ _ read := by cases read

theorem value {j : Raw} (bare : j.Bare) (after : Cursor) : Flat (.ok (j, after)) where
  passing := .ok _
  bare other _ read := by
    obtain ⟨rfl, _⟩ := Prod.mk.inj (Except.ok.inj read)
    exact bare

theorem ite (first : Flat yes) (second : Flat no) : Flat (if condition then yes else no) := by
  split
  · exact first
  · exact second

end Flat

theorem read_number_flat (c : Cursor) : Flat (readNumber c) := by
  refine .ite (.fault rfl) (.ite (.ite (.fault rfl) (.value ?_ _)) (.value ?_ _))
  all_goals rintro members ⟨⟩

theorem read_scalar_flat (c : Cursor) : Flat (readScalar c) := by
  unfold readScalar
  split
  case h_1 word value found =>
    refine .value ?_ _
    rintro members rfl
    have member := List.mem_of_find?_eq_some found
    simp [words] at member
  case h_2 => exact read_number_flat c

/-- No member is read where no string stands. -/
theorem read_members_unnamed {fuel levels : Nat} {read : List Raw.Member} {c : Cursor}
    (unnamed : ∀ rest, c.text ≠ '"' :: rest) :
    readMembers fuel levels read c = c.fault .nameWanted := by
  cases fuel with
  | zero => rfl
  | succ fuel =>
      rw [readMembers.eq_def]
      dsimp only
      split
      case h_1 rest quoted => exact absurd quoted (unnamed rest)
      case h_2 => rfl

theorem read_value_flat {fuel levels : Nat} {c : Cursor} (some : levels ≠ 0)
    (plain : ¬Nests c.text) : Flat (readValue fuel levels c) := by
  cases fuel with
  | zero => exact .fault rfl
  | succ fuel =>
      rw [readValue.eq_def]
      dsimp only
      split
      case h_1 rest _ =>
        have passing := read_string_passing c.position c.text.length [] (c.move 1)
        cases outcome : readString c.position c.text.length [] (c.move 1) with
        | error fault => exact .fault (passing fault outcome)
        | ok found =>
            refine .value ?_ _
            rintro members ⟨⟩
      case h_2 rest bracket =>
        rw [bracket] at plain
        exact absurd (.list rest) plain
      case h_3 rest brace =>
        obtain ⟨blanks, blank, parts⟩ := skip_blank_text (c.move 1)
        have unnamed : ∀ more, (c.move 1).skipBlank.text ≠ '"' :: more := by
          intro more quoted
          refine plain ?_
          have within : (c.move 1).text = rest := by
            rw [Cursor.move, brace, List.drop_one, List.tail_cons]
          rw [brace, ← within, parts, quoted]
          exact .object blank more
        rw [if_neg some, read_members_unnamed unnamed]
        refine .ite (.value ?_ _) (.fault rfl)
        rintro members ⟨⟩
        rfl
      case h_4 => exact read_scalar_flat c

/-- A text in which nothing is nested may be read in another way, or is read as a value that is no
object with members. -/
theorem parse_flat {text : List Char} (plain : ¬Opens text) :
    Passing (parse text) ∧ ∀ j, parse text = .ok j → j.Bare := by
  unfold parse
  split_ifs
  · exact ⟨.at_place _ _, fun j read => by cases read⟩
  · obtain ⟨blanks, blank, parts⟩ := skip_blank_text ⟨0, text⟩
    have flat : Flat (readValue (2 * text.length + 2) mostLevels (Cursor.skipBlank ⟨0, text⟩)) :=
      read_value_flat (by decide) fun nests => plain ⟨blanks, _, blank, parts, nests⟩
    split
    case h_1 fault failed =>
      refine ⟨?_, fun j read => by cases read⟩
      rintro other ⟨⟩
      exact flat.passing fault failed
    case h_2 value after read =>
      refine ⟨.ite (.ok _) (.at_place _ _), fun j whole => ?_⟩
      dsimp only at whole
      split_ifs at whole
      · obtain rfl := Except.ok.inj whole
        exact flat.bare value after read
      · cases whole

end StorefrontSurvey.Json
