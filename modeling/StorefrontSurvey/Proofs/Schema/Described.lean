import StorefrontSurvey.Proofs.Schema.FieldNames
/-!
Names in an introspection result. A name that passes its check is a name of the schema language, and
it is the key under which its type or field stands; of several that stand under one key only the last
one counts. So the types of a result have distinct names, and so have the fields of each.
-/
namespace StorefrontSurvey.Schema

open Json (Raw)
open Text (Point Wide)

/-! ### Names -/

theorem has_char {property : Char → Bool} {point : Point} (has : point.has property = true) :
    ∃ c, point = .char c ∧ property c = true := by
  cases point with
  | half place => cases has
  | char c => exact ⟨c, rfl, has⟩

/-- A text of characters with a property is written by these characters. -/
theorem all_chars {property : Char → Bool} {text : Wide}
    (all : text.all (Point.has property) = true) :
    ∃ chars, text = Wide.ofChars chars ∧ chars.all property = true := by
  induction text with
  | nil => exact ⟨[], rfl, rfl⟩
  | cons point rest ih =>
      obtain ⟨here, later⟩ := Bool.and_eq_true_iff.1 all
      obtain ⟨c, rfl, has⟩ := has_char here
      obtain ⟨chars, rfl, others⟩ := ih later
      exact ⟨c :: chars, rfl, by rw [List.all_cons, has, others]; rfl⟩

theorem chars_of_chars (chars : List Char) : (Wide.ofChars chars).chars = chars := by
  have spelled := Wide.chars_of (String.ofList chars)
  rwa [Wide.of, String.toList_ofList] at spelled

theorem check_name_ok {j : Raw} {name : String} (checked : checkName j = .ok name) :
    j = .str (Wide.of name) ∧ isName name = true := by
  cases j with
  | str text =>
      cases text with
      | nil => cases checked
      | cons first rest =>
          simp only [checkName] at checked
          split_ifs at checked with parts start
          all_goals cases checked
          obtain ⟨c, rfl, starts⟩ := has_char (by simpa using start)
          obtain ⟨chars, rfl, named⟩ := all_chars (by simpa using parts)
          have written : Wide.chars (.char c :: Wide.ofChars chars) = c :: chars :=
            chars_of_chars (c :: chars)
          rw [written, Wide.of, isName, String.toList_ofList]
          exact ⟨rfl, Bool.and_eq_true_iff.2 ⟨starts, named⟩⟩
  | null | bool | int | decimal | arr | obj => cases checked

/-! ### Keys -/

theorem str_same_key_iff {key : Raw} {text : Wide} :
    sameKey (.str text) key = true ↔ key = .str text := by
  cases key with
  | str other => rw [sameKey, beq_iff_eq, Raw.str.injEq, eq_comm]
  | null | bool | int | decimal | arr | obj => simp [sameKey]

variable {α : Type}

/-- What stands under a key was given under it, or under one that is the same. -/
theorem keyed_source {parts : List (Raw × α)} {key : Raw} {value : α}
    (member : (key, value) ∈ keyed parts) :
    ∃ other, (other, value) ∈ parts ∧ (other = key ∨ sameKey other key = true) := by
  induction parts with
  | nil => cases member
  | cons part rest ih =>
      obtain ⟨first, given⟩ := part
      rw [keyed] at member
      rcases List.mem_cons.1 member with here | later
      · obtain ⟨rfl, chosen⟩ := Prod.mk.inj here
        cases found : rest.reverse.find? fun r => sameKey r.1 key with
        | none =>
            rw [found] at chosen
            exact ⟨key, by simp [chosen], .inl rfl⟩
        | some last =>
            rw [found] at chosen
            have among := List.mem_reverse.1 (List.mem_of_find?_eq_some found)
            refine ⟨last.1, List.mem_cons_of_mem _ ?_, .inr (by simpa using List.find?_some found)⟩
            rw [chosen]
            exact among
      · obtain ⟨other, among, same⟩ := ih (List.mem_filter.1 later).1
        exact ⟨other, List.mem_cons_of_mem _ among, same⟩

theorem keyed_distinct (parts : List (Raw × α)) :
    (keyed parts).Pairwise fun first second => sameKey second.1 first.1 = false := by
  induction parts with
  | nil => exact List.Pairwise.nil
  | cons part rest ih =>
      obtain ⟨key, value⟩ := part
      rw [keyed]
      refine List.pairwise_cons.2 ⟨fun other member => ?_, ih.filter _⟩
      simpa using (List.mem_filter.1 member).2

/-- Texts that keyed parts stand under are distinct. -/
theorem keyed_names_nodup {parts : List (Raw × α)} {names : List String}
    (texts : (keyed parts).map Prod.fst = names.map fun name => .str (Wide.of name)) :
    names.Nodup := by
  have distinct := keyed_distinct parts
  rw [← List.pairwise_map (f := Prod.fst) (R := fun first second => sameKey second first = false),
    texts, List.pairwise_map] at distinct
  refine distinct.imp fun {first second} differ same => ?_
  rw [same, str_same_key_iff.2 rfl] at differ
  cases differ

/-! ### Fields -/

theorem of_part_ok {type part : String} {work : Build α} {value : α}
    (done : ofPart type part work = .ok value) : work = .ok value := by
  cases work with
  | error fault => cases done
  | ok other =>
      obtain rfl := Except.ok.inj done
      rfl

theorem field_of_part {part : Raw × TypeRef × List Param} {field : Field}
    (done : (do return ⟨← checkName part.1, part.2.1, part.2.2⟩ : Build Field) = .ok field) :
    Raw.str (Wide.of field.name) = part.1 ∧ isName field.name = true := by
  obtain ⟨name, checked, done⟩ := except_bind_ok done
  obtain rfl := Except.ok.inj done
  obtain ⟨key, named⟩ := check_name_ok checked
  exact ⟨key.symm, named⟩

theorem answer_fields_well {entries : Entries} {types : Types} {d : Described}
    {fields : List Field} (done : answerFields entries types d = .ok fields) :
    WellFielded fields := by
  obtain ⟨parts, found, done⟩ := except_bind_ok done
  obtain ⟨_, _, done⟩ := except_bind_ok done
  have shape : ∃ listed, parts = keyed listed := by
    have found := of_part_ok found
    obtain ⟨listed, _, found⟩ := except_bind_ok found
    split_ifs at found
    · obtain ⟨_, thrown, _⟩ := except_bind_ok found
      cases thrown
    · obtain ⟨items, _, found⟩ := except_bind_ok found
      obtain ⟨keyedParts, _, found⟩ := except_bind_ok found
      exact ⟨_, (Except.ok.inj found).symm⟩
  obtain ⟨listed, rfl⟩ := shape
  have keys : fields.map (fun f => Raw.str (Wide.of f.name)) = (keyed listed).map Prod.fst :=
    map_m_keeps (fun part field worked => (field_of_part worked).1) done
  have texts : (keyed listed).map Prod.fst =
      (fields.map Field.name).map fun name => Raw.str (Wide.of name) := by
    rw [← keys, List.map_map]
    rfl
  refine ⟨keyed_names_nodup texts, fun f member => ?_⟩
  · obtain ⟨part, _, worked⟩ := map_m_source done member
    exact (field_of_part worked).2

/-! ### Entries -/

/-- An entry as it stands under a name: it is known by this name, or its description has it. -/
def Entry.StandsUnder (name : Raw) : Entry → Prop
  | .standard t => ∃ word, name = .str (Wide.of word) ∧ standardType? word = some t
  | .described d => name = .str (Wide.of d.name) ∧ isName d.name = true

theorem word_of {j : Raw} {word : String} (said : j.word? = some word) :
    j = .str (Wide.of word) := by
  cases j with
  | str text =>
      have plain : text.plain? = some word := said
      unfold Wide.plain? at plain
      split_ifs at plain with whole
      obtain rfl := Option.some.inj plain
      have all : text.all (Point.has fun _ => true) = true := by
        refine List.all_eq_true.2 fun point member => ?_
        have isChar := Wide.whole_iff.1 whole point member
        cases point with
        | half place => cases isChar
        | char c => rfl
      obtain ⟨chars, rfl, _⟩ := all_chars all
      rw [chars_of_chars, Wide.of, String.toList_ofList]
  | null | bool | int | decimal | arr | obj => cases said

theorem reserved_ok {j : Raw} {known? : Option NamedType} (done : reserved? j = .ok known?) :
    ∃ name, need j "name" = .ok name ∧ known? = name.word?.bind standardType? := by
  obtain ⟨name, needed, done⟩ := except_bind_ok done
  obtain ⟨_, _, done⟩ := except_bind_ok done
  exact ⟨name, needed, (Except.ok.inj done).symm⟩

theorem new_type_ok {kind : Kind} {j : Raw} {values : List String} {e : Entry}
    (done : newType kind j values = .ok e) :
    ∃ name d, need j "name" = .ok name ∧ e = .described d ∧ name = .str (Wide.of d.name) ∧
      isName d.name = true := by
  obtain ⟨name, needed, done⟩ := except_bind_ok done
  obtain ⟨word, checked, done⟩ := except_bind_ok done
  obtain ⟨_, _, done⟩ := except_bind_ok done
  obtain rfl := Except.ok.inj done
  obtain ⟨key, named⟩ := check_name_ok checked
  exact ⟨name, _, needed, rfl, key, named⟩

/-- An entry stands under the name that its description gives. -/
def Stands (j : Raw) (e : Entry) : Prop :=
  ∃ name, need j "name" = .ok name ∧ e.StandsUnder name

theorem new_type_stands {kind : Kind} {j : Raw} {values : List String} {e : Entry}
    (done : newType kind j values = .ok e) : Stands j e := by
  obtain ⟨name, d, needed, rfl, key, named⟩ := new_type_ok done
  exact ⟨name, needed, key, named⟩

theorem reserved_stands {j : Raw} {t : NamedType} (done : reserved? j = .ok (some t)) :
    Stands j (.standard t) := by
  obtain ⟨name, needed, known⟩ := reserved_ok done
  obtain ⟨word, said, found⟩ := Option.bind_eq_some_iff.1 known.symm
  exact ⟨name, needed, word, word_of said, found⟩

theorem known_or_new_stands {kind : Kind} {j : Raw} {more : Build (List String)} {e : Entry}
    (done : knownOrNew kind j more = .ok e) : Stands j e := by
  obtain ⟨known?, reserved, done⟩ := except_bind_ok done
  cases known? with
  | some t =>
      obtain rfl := Except.ok.inj done
      exact reserved_stands reserved
  | none =>
      obtain ⟨values, _, done⟩ := except_bind_ok done
      exact new_type_stands done

theorem only_new_stands {kind : Kind} {j : Raw} {e : Entry} (done : onlyNew kind j = .ok e) :
    Stands j e := by
  obtain ⟨known?, _, done⟩ := except_bind_ok done
  cases known? with
  | some t => cases done
  | none => exact new_type_stands done

theorem scalar_entry_stands {j : Raw} {e : Entry} (done : scalarEntry j = .ok e) :
    Stands j e := by
  obtain ⟨entry, known, done⟩ := except_bind_ok done
  cases entry with
  | standard t =>
      obtain rfl := Except.ok.inj done
      exact known_or_new_stands known
  | described d =>
      obtain ⟨_, _, done⟩ := except_bind_ok done
      obtain ⟨_, _, done⟩ := except_bind_ok done
      obtain rfl := Except.ok.inj done
      exact known_or_new_stands known

theorem enum_entry_stands {j : Raw} {e : Entry} (done : enumEntry j = .ok e) : Stands j e := by
  obtain ⟨_, _, done⟩ := except_bind_ok done
  obtain ⟨known?, reserved, done⟩ := except_bind_ok done
  cases known? with
  | some t =>
      obtain rfl := Except.ok.inj done
      exact reserved_stands reserved
  | none =>
      obtain ⟨_, _, done⟩ := except_bind_ok done
      obtain ⟨_, _, done⟩ := except_bind_ok done
      obtain ⟨entry, made, done⟩ := except_bind_ok done
      obtain ⟨_, _, done⟩ := except_bind_ok done
      obtain ⟨name, d, needed, rfl, key, named⟩ := new_type_ok made
      obtain rfl := Except.ok.inj done
      exact ⟨name, needed, key, named⟩

theorem entry_of_kind_stands {kind : String} {j : Raw} {e : Entry}
    (done : entryOfKind kind j = .ok e) : Stands j e := by
  unfold entryOfKind at done
  split at done
  · exact scalar_entry_stands done
  · exact known_or_new_stands done
  · exact only_new_stands done
  · obtain ⟨_, _, done⟩ := except_bind_ok done
    exact only_new_stands done
  · exact enum_entry_stands done
  · obtain ⟨_, _, done⟩ := except_bind_ok done
    exact only_new_stands done
  · cases done

theorem entry_of_stands {j : Raw} {e : Entry} (done : entryOf j = .ok e) : Stands j e := by
  unfold entryOf at done
  split at done
  · split at done
    · obtain ⟨_, _, done⟩ := except_bind_ok done
      split at done
      · exact entry_of_kind_stands done
      · cases done
    · cases done
  · cases done

theorem keyed_entry_stands {j name : Raw} {e : Entry} (done : keyedEntry j = .ok (name, e)) :
    e.StandsUnder name := by
  obtain ⟨given, needed, done⟩ := except_bind_ok done
  obtain ⟨entry, made, done⟩ := except_bind_ok done
  obtain ⟨_, _, done⟩ := except_bind_ok done
  obtain ⟨rfl, rfl⟩ := Prod.mk.inj (Except.ok.inj done)
  obtain ⟨other, needs, stands⟩ := entry_of_stands made
  obtain rfl := Except.ok.inj (needed.symm.trans needs)
  exact stands

theorem standard_type_own {word : String} {t : NamedType} (found : standardType? word = some t) :
    standardType? t.name = some t := by
  rw [(standard_type_found found).2, found]

theorem settled_stands {name : Raw} {e : Entry} (stands : e.StandsUnder name) :
    (settled e).StandsUnder name := by
  unfold settled
  cases known : standardType? e.name with
  | none => exact stands
  | some t =>
      cases e with
      | standard other =>
          obtain ⟨word, key, found⟩ := stands
          obtain rfl := Option.some.inj ((standard_type_own found).symm.trans known)
          exact ⟨word, key, found⟩
      | described d => exact ⟨d.name, stands.1, known⟩

theorem stands_key {name : Raw} {e : Entry} (stands : e.StandsUnder name) :
    name = .str (Wide.of e.name) := by
  cases e with
  | standard t =>
      obtain ⟨word, key, found⟩ := stands
      rw [key, Entry.name, (standard_type_found found).2]
  | described d => exact stands.1

theorem keyed_stands {listed : List (Raw × Entry)}
    (each : ∀ entry ∈ listed, entry.2.StandsUnder entry.1) :
    ∀ entry ∈ keyed listed, entry.2.StandsUnder entry.1 := by
  rintro ⟨key, e⟩ member
  obtain ⟨other, given, rfl | same⟩ := keyed_source member
  · exact each _ given
  · have stands := each _ given
    dsimp only at stands ⊢
    rw [stands_key stands, str_same_key_iff] at same
    rw [same, ← stands_key stands]
    exact stands

/-! ### Types -/

theorem type_of_described {entries : Entries} {types : Types} {d : Described} {t : NamedType}
    (done : typeOfEntry entries types (.described d) = .ok t) :
    ∃ kind fields, t = ⟨d.name, kind, fields⟩ ∧ WellFielded fields := by
  unfold typeOfEntry at done
  dsimp only at done
  split at done
  · obtain ⟨_, _, done⟩ := except_bind_ok done
    obtain ⟨fields, answered, done⟩ := except_bind_ok done
    exact ⟨_, fields, (Except.ok.inj done).symm, answer_fields_well answered⟩
  · obtain ⟨_, _, done⟩ := except_bind_ok done
    obtain ⟨fields, answered, done⟩ := except_bind_ok done
    exact ⟨_, fields, (Except.ok.inj done).symm, answer_fields_well answered⟩
  · obtain ⟨_, _, done⟩ := except_bind_ok done
    exact ⟨_, [], (Except.ok.inj done).symm, well_fielded_nil⟩
  · obtain ⟨_, _, done⟩ := except_bind_ok done
    exact ⟨_, [], (Except.ok.inj done).symm, well_fielded_nil⟩
  · exact ⟨_, [], (Except.ok.inj done).symm, well_fielded_nil⟩

theorem type_of_entry_name {entries : Entries} {types : Types} {e : Entry} {t : NamedType}
    (done : typeOfEntry entries types e = .ok t) : t.name = e.name := by
  cases e with
  | standard known =>
      obtain rfl := Except.ok.inj done
      rfl
  | described d =>
      obtain ⟨kind, fields, rfl, _⟩ := type_of_described done
      rfl

theorem type_of_entry_fit {entries : Entries} {types : Types} {name : Raw} {e : Entry}
    {t : NamedType} (stands : e.StandsUnder name) (done : typeOfEntry entries types e = .ok t) :
    t.Fit := by
  cases e with
  | standard known =>
      obtain rfl := Except.ok.inj done
      obtain ⟨word, _, found⟩ := stands
      exact standard_fit _ (standard_type_found found).1
  | described d =>
      obtain ⟨kind, fields, rfl, well⟩ := type_of_described done
      exact ⟨stands.2, well⟩

end StorefrontSurvey.Schema
