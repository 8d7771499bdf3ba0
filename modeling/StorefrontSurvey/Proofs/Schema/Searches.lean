import StorefrontSurvey.Proofs.Schema.ParsedNames
import StorefrontSurvey.Proofs.Text.Lowering
import StorefrontSurvey.Schema.Lookup
/-!
Searches for types against lookups of types. Both go by the names of a catalog, of which no two are
the same, so a search lists just the names that a lookup knows and that hold its text, in order.
-/
namespace StorefrontSurvey.Schema

open Text (IsAscii)

/-! ### Names that are found -/

/-- What a search wants of a name: it is not one of introspection, and the text occurs in it if case
does not matter. -/
structure Matches (text name : String) : Prop where
  shown : ¬hiddenMark <+: name.toList
  holds : (Text.lower text).toList <:+: (Text.lower name).toList

theorem is_found_iff {text name : String} : isFound text name = true ↔ Matches text name := by
  rw [isFound, Bool.and_eq_true, Bool.not_eq_true', Text.occurs_in_iff, ← Bool.not_eq_true,
    List.isPrefixOf_iff_prefix]
  exact ⟨fun ⟨shown, holds⟩ => ⟨shown, holds⟩, fun ⟨shown, holds⟩ => ⟨shown, holds⟩⟩

theorem name_part_ascii {c : Char} (part : isNamePart c = true) : c.toNat < 0x80 := by
  have parts := (Bool.or_eq_true_iff.1 part).imp Bool.or_eq_true_iff.1 of_decide_eq_true
  rcases parts with (alpha | digit) | rfl
  · rcases Bool.or_eq_true_iff.1 alpha with upper | lower
    · have last : c.toNat ≤ 0x5A := (of_decide_eq_true upper).2
      omega
    · have last : c.toNat ≤ 0x7A := of_decide_eq_true (Bool.and_eq_true_iff.1 lower).2
      omega
  · have last : c.toNat ≤ 0x39 := of_decide_eq_true (Bool.and_eq_true_iff.1 digit).2
    omega
  · decide

theorem name_ascii {name : String} (named : isName name = true) : IsAscii name.toList := by
  unfold isName at named
  split at named
  · cases named
  case h_2 c rest spelled =>
    obtain ⟨starts, parts⟩ := Bool.and_eq_true_iff.1 named
    rw [spelled]
    rintro other (_ | ⟨_, later⟩)
    · exact name_part_ascii (name_part_of_start starts)
    · exact name_part_ascii (List.all_eq_true.1 parts other later)

/-- What holds a text holds each part of the text. A name is in ASCII, so no sigma can tell the
lower case of a part from a part of the lower case. -/
theorem matches_of_longer {text part name : String} (named : isName name = true)
    (within : part.toList <:+: text.toList) (found : Matches text name) : Matches part name := by
  obtain ⟨shown, holds⟩ := found
  refine ⟨shown, ?_⟩
  rw [Text.lower_chars, Text.lower_chars] at holds ⊢
  have ascii := (Text.lower_behind_ascii (name_ascii named)).within holds
  exact (Text.lower_within within ascii).trans holds

/-! ### Searches -/

namespace Catalog

variable {c : Catalog} {text name : String}

theorem mem_names_iff : name ∈ c.names ↔ (c.type? name).isSome = true := by
  simp [names, type?, List.find?_isSome]

theorem mem_search_iff :
    name ∈ c.search text ↔ (c.type? name).isSome = true ∧ Matches text name := by
  rw [search, List.mem_mergeSort, List.mem_filter, mem_names_iff, is_found_iff]

/-- The names found are in the order of their code points, each of them once. -/
theorem search_ordered (c : Catalog) (text : String) : (c.search text).Pairwise (· < ·) := by
  have in_order {first second : String} :
      (!decide (second < first)) = true ↔ first ≤ second := by
    rw [Bool.not_eq_true', decide_eq_false_iff_not, String.not_lt]
  have sorted : (c.search text).Pairwise fun first second => !decide (second < first) := by
    refine List.pairwise_mergeSort (fun first second third lower upper => ?_) ?_ _
    · exact in_order.2 (String.le_trans (in_order.1 lower) (in_order.1 upper))
    · intro first second
      rw [Bool.or_eq_true, in_order, in_order]
      exact String.le_total first second
  have distinct : (c.search text).Nodup :=
    (List.mergeSort_perm _ _).nodup_iff.2 (c.names_nodup.filter _)
  refine sorted.imp₂ (fun first second lower differs => ?_) distinct
  exact String.not_le.1 fun upper => differs (String.le_antisymm (in_order.1 lower) upper)

/-- More text, before or after, finds nothing more. -/
theorem search_narrowed {before after : String}
    (found : name ∈ c.search (before ++ text ++ after)) : name ∈ c.search text := by
  obtain ⟨known, matched⟩ := mem_search_iff.1 found
  obtain ⟨t, present⟩ := Option.isSome_iff_exists.1 known
  obtain ⟨member, rfl⟩ := found_by_key present
  have within : text.toList <:+: (before ++ text ++ after).toList :=
    ⟨before.toList, after.toList, by simp⟩
  exact mem_search_iff.2 ⟨known, matches_of_longer (c.fit t member).named within matched⟩

end Catalog

/-- What searches of a catalog have to do with lookups in it and with each other. -/
structure SearchLaw (c : Catalog) : Prop where
  listed : ∀ text name,
    name ∈ c.search text ↔ (c.type? name).isSome = true ∧ Matches text name
  ordered : ∀ text, (c.search text).Pairwise (· < ·)
  narrowed : ∀ text before after name,
    name ∈ c.search (before ++ text ++ after) → name ∈ c.search text

theorem search_law (c : Catalog) : SearchLaw c :=
  ⟨fun _ _ => Catalog.mem_search_iff, c.search_ordered, fun _ _ _ _ => Catalog.search_narrowed⟩

end StorefrontSurvey.Schema
