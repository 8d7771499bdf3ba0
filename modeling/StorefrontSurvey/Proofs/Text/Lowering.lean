import Mathlib.Data.List.Infix
import StorefrontSurvey.Text.LowerCase
import StorefrontSurvey.Text.Within
/-!
Lower case against parts of texts. The lower case of a text is in general not made up of those of
its parts, as a capital sigma looks around itself. Where it is all in ASCII there was no sigma, so
there it is.
-/
namespace StorefrontSurvey.Text

theorem occurs_in_iff {needle text : List Char} :
    occursIn needle text = true ↔ needle <:+: text := by
  induction text with
  | nil => simp [occursIn]
  | cons c rest ih => simp [occursIn, List.infix_cons_iff, ih]

def IsAscii (text : List Char) : Prop := ∀ c ∈ text, c.toNat < 0x80

theorem ascii_append {before after : List Char} :
    IsAscii (before ++ after) ↔ IsAscii before ∧ IsAscii after := by
  simp only [IsAscii, List.mem_append, or_imp, forall_and]

theorem IsAscii.within {part text : List Char} (ascii : IsAscii text) (within : part <:+: text) :
    IsAscii part := fun c member => ascii c (within.subset member)

/-! ### Letter by letter -/

theorem to_lower_ascii {c : Char} (ascii : c.toNat < 0x80) : c.toLower.toNat < 0x80 := by
  have all : ∀ n : Fin 0x80, (Char.ofNat n).toLower.toNat < 0x80 := by decide
  rw [← Char.ofNat_toNat c]
  exact all ⟨c.toNat, ascii⟩

theorem lower_alone_ascii {c : Char} (ascii : c.toNat < 0x80) : lowerAlone c = [c.toLower] :=
  if_pos ascii

theorem lower_behind_each {begun : Bool} {text : List Char} (none : '\u03A3' ∉ text) :
    lowerBehind begun text = text.flatMap lowerAlone := by
  induction text generalizing begun with
  | nil => rfl
  | cons c rest ih =>
      rw [List.mem_cons, not_or] at none
      rw [lowerBehind, if_neg (Ne.symm none.1), ih none.2, List.flatMap_cons]

/-- A capital sigma has no lower case in ASCII, wherever it stands. -/
theorem no_sigma_of_ascii {begun : Bool} {text : List Char}
    (ascii : IsAscii (lowerBehind begun text)) : '\u03A3' ∉ text := by
  induction text generalizing begun with
  | nil => exact List.not_mem_nil
  | cons c rest ih =>
      rw [lowerBehind, ascii_append] at ascii
      rw [List.mem_cons, not_or]
      refine ⟨?_, ih ascii.2⟩
      rintro rfl
      rw [if_pos rfl] at ascii
      have sigma := ascii.1 _ (List.mem_singleton_self _)
      split at sigma <;> exact absurd sigma (by decide)

/-- The lower case of a text in ASCII is in ASCII. -/
theorem lower_behind_ascii {begun : Bool} {text : List Char} (ascii : IsAscii text) :
    IsAscii (lowerBehind begun text) := by
  have none : '\u03A3' ∉ text := fun sigma => absurd (ascii _ sigma) (by decide)
  rw [lower_behind_each none]
  intro c member
  obtain ⟨letter, among, given⟩ := List.mem_flatMap.1 member
  rw [lower_alone_ascii (ascii letter among), List.mem_singleton] at given
  rw [given]
  exact to_lower_ascii (ascii letter among)

/-! ### Parts of texts -/

theorem lower_chars (text : String) : (lower text).toList = lowerBehind false text.toList :=
  String.toList_ofList

/-- If a text has its lower case in ASCII, so has each part, and that is a part of it. -/
theorem lower_within {part text : List Char} (within : part <:+: text)
    (ascii : IsAscii (lowerBehind false text)) :
    lowerBehind false part <:+: lowerBehind false text := by
  have none := no_sigma_of_ascii ascii
  obtain ⟨before, after, rfl⟩ := within
  have partNone : '\u03A3' ∉ part := by simp_all
  rw [lower_behind_each none, lower_behind_each partNone, List.flatMap_append,
    List.flatMap_append]
  exact ⟨_, _, rfl⟩

end StorefrontSurvey.Text
