import StorefrontSurvey.Proofs.Schema.Described
import StorefrontSurvey.Proofs.Schema.ParsedNames
/-!
The types that the two readers of schemas come up with. They always make a catalog: its demands are
met by the parser and the rules on one side, by the checks of names and their keys on the other.
-/
namespace StorefrontSurvey.Schema

/-- Types that make a catalog. -/
structure MakesCatalog (types : List NamedType) : Prop where
  names_nodup : (types.map NamedType.name).Nodup
  fit : ∀ t ∈ types, t.Fit

/-- If all that comes of a work makes a catalog, the demands of the catalog turn nothing away. -/
theorem of_types_bind_iff {work : Build (List NamedType)} {catalog : Catalog}
    (makes : ∀ types, work = .ok types → MakesCatalog types) :
    (do Catalog.ofTypes (← work)) = .ok catalog ↔ work = .ok catalog.types := by
  cases work with
  | error fault => exact ⟨nofun, nofun⟩
  | ok types =>
      have fits := makes types rfl
      have made : Catalog.ofTypes types = .ok ⟨types, fits.names_nodup, fits.fit⟩ := by
        simp only [Catalog.ofTypes, Catalog.ofTypes?, dif_pos fits.names_nodup, dif_pos fits.fit]
      change Catalog.ofTypes types = .ok catalog ↔ _
      rw [made, Except.ok.injEq, Except.ok.injEq]
      constructor
      · rintro rfl
        rfl
      · rintro rfl
        rfl

theorem standard_names_nodup : (standardTypes.map NamedType.name).Nodup := by decide

/-- The standard types are added only where no type has their name. -/
theorem with_standard_makes {types : List NamedType} (used : List String)
    (own : MakesCatalog types) : MakesCatalog (withStandard types used) := by
  constructor
  · rw [withStandard, List.map_append]
    refine List.nodup_append'.2 ⟨own.names_nodup, ?_, ?_⟩
    · exact standard_names_nodup.sublist (List.filter_sublist.map _)
    · intro name mine standard
      obtain ⟨t, member, rfl⟩ := List.mem_map.1 mine
      obtain ⟨other, added, same⟩ := List.mem_map.1 standard
      have absent := (Bool.and_eq_true_iff.1 (List.mem_filter.1 added).2).2
      rw [Bool.not_eq_true', List.any_eq_false] at absent
      exact absent t member (beq_iff_eq.2 same.symm)
  · intro t member
    rcases List.mem_append.1 member with mine | standard
    · exact own.fit t mine
    · exact standard_fit t (List.mem_filter.1 standard).1

/-! ### Documents -/

theorem parts_well_named {doc : Document} (named : ∀ d ∈ doc, d.WellNamed) {d : TypeDef}
    (defined : d ∈ definedTypes doc) : ∀ part ∈ (Source.of doc).parts d, part.WellNamed := by
  intro part member
  rcases List.mem_cons.1 member with rfl | extension
  · exact named _ (mem_defined.1 defined)
  · exact named _ (mem_extensions.1 (List.mem_filter.1 extension).1)

theorem built_fit {doc : Document} (none : violations doc = [])
    (named : ∀ d ∈ doc, d.WellNamed) {d : TypeDef} {t : NamedType}
    (defined : d ∈ definedTypes doc) (built : Built (Source.of doc) d t) : t.Fit := by
  cases built with
  | standard known => exact standard_fit t (standard_type_found known).1
  | bare kind => exact ⟨(named _ (mem_defined.1 defined)).1, well_fielded_nil⟩
  | @whole kind fields names =>
      refine ⟨(named _ (mem_defined.1 defined)).1, ?_, fun f member => ?_⟩
      · rw [names]
        exact parts_answer_names_nodup none defined
      · have among := List.mem_map_of_mem (f := Field.name) member
        rw [names] at among
        obtain ⟨part, isPart, given⟩ := List.mem_flatMap.1 among
        obtain ⟨written, isWritten, same⟩ := List.mem_map.1 given
        rw [← same]
        exact (parts_well_named named defined part isPart).2 written isWritten

theorem built_name {s : Source} {d : TypeDef} {t : NamedType} (built : Built s d t) :
    t.name = d.name := by
  cases built with
  | standard known => exact (standard_type_found known).2
  | bare | whole => rfl

theorem defined_names_nodup {doc : Document} (none : violations doc = []) :
    ((definedTypes doc).map TypeDef.name).Nodup := by
  have gathered (doc : Document) :
      (definedTypes doc).map TypeDef.name = doc.flatMap fun d => d.gathered.types := by
    unfold definedTypes
    induction doc with
    | nil => rfl
    | cons d rest ih =>
        rw [List.flatMap_cons, ← ih]
        cases d <;> rfl
  rw [gathered]
  exact (gathered_distinct none).1

theorem schema_types_make {doc : Document} (none : violations doc = [])
    (named : ∀ d ∈ doc, d.WellNamed) {types : List NamedType}
    (done : schemaTypes doc = .ok types) : MakesCatalog types := by
  obtain ⟨_, _, done⟩ := except_bind_ok done
  obtain ⟨_, _, done⟩ := except_bind_ok done
  obtain ⟨own, built, done⟩ := except_bind_ok done
  obtain rfl := Except.ok.inj done
  refine with_standard_makes _ ⟨?_, fun t member => ?_⟩
  · have names : own.map NamedType.name = (definedTypes doc).map TypeDef.name :=
      map_m_keeps (fun d t worked => built_name (build_type_built worked)) built
    rw [names]
    exact defined_names_nodup none
  · obtain ⟨d, defined, worked⟩ := map_m_source built member
    exact built_fit none named defined (build_type_built worked)

/-! ### Introspection results -/

theorem described_types_make {given : List Json.Raw} {listed : List (Json.Raw × Entry)}
    (read : given.mapM keyedEntry = .ok listed) {entries : Entries}
    (settle : entries = (keyed listed).map fun e => settled e.2) {types : Types}
    {own : List NamedType} (built : entries.mapM (typeOfEntry entries types) = .ok own) :
    MakesCatalog own := by
  have stands : ∀ entry ∈ keyed listed, (settled entry.2).StandsUnder entry.1 := by
    intro entry member
    refine settled_stands (keyed_stands (fun part among => ?_) entry member)
    obtain ⟨j, _, made⟩ := map_m_source read among
    exact keyed_entry_stands made
  have names : own.map NamedType.name = (keyed listed).map fun e => (settled e.2).name := by
    rw [map_m_keeps (fun _ _ => type_of_entry_name) built, settle, List.map_map]
    rfl
  have keys : (keyed listed).map Prod.fst =
      (own.map NamedType.name).map fun name => .str (Text.Wide.of name) := by
    rw [names, List.map_map]
    exact List.map_congr_left fun entry member => stands_key (stands entry member)
  refine ⟨keyed_names_nodup keys, fun t member => ?_⟩
  obtain ⟨e, among, worked⟩ := map_m_source built member
  rw [settle] at among
  obtain ⟨entry, given, rfl⟩ := List.mem_map.1 among
  exact type_of_entry_fit (stands entry given) worked

theorem last_types_make {given : List Json.Raw} {listed : List (Json.Raw × Entry)}
    (read : given.mapM keyedEntry = .ok listed) {entries : Entries}
    (settle : entries = (keyed listed).map fun e => settled e.2) {checked : Build Unit}
    {types : List NamedType}
    (done : (do
      checked
      let own ← entries.mapM (typeOfEntry entries entries.toTypes)
      return withStandard own []) = .ok types) : MakesCatalog types := by
  obtain ⟨_, _, done⟩ := except_bind_ok done
  obtain ⟨own, built, done⟩ := except_bind_ok done
  obtain rfl := Except.ok.inj done
  exact with_standard_makes [] (described_types_make read settle built)

theorem introspected_types_make {result : Json.Raw} {types : List NamedType}
    (done : introspectedTypes result = .ok types) : MakesCatalog types := by
  unfold introspectedTypes at done
  split at done
  · split at done
    · obtain ⟨schema, _, done⟩ := except_bind_ok done
      obtain ⟨_, _, done⟩ := except_bind_ok done
      obtain ⟨given, _, done⟩ := except_bind_ok done
      obtain ⟨listed, read, done⟩ := except_bind_ok done
      -- the three roots and the directives
      iterate 4
        obtain ⟨_, _, done⟩ := except_bind_ok done
      dsimp only at done
      split at done
      · obtain ⟨_, _, done⟩ := except_bind_ok done
        obtain ⟨_, _, done⟩ := except_bind_ok done
        exact last_types_make read rfl done
      · exact last_types_make read rfl done
    · obtain ⟨_, thrown, _⟩ := except_bind_ok done
      cases thrown
  · obtain ⟨_, thrown, _⟩ := except_bind_ok done
    cases thrown

/-! ### Catalogs -/

theorem of_document_ok_iff {text : Text.Wide} {doc : Document} {catalog : Catalog}
    (parsed : Document.parse text = .ok doc) (none : violations doc = []) :
    Catalog.ofDocument doc = .ok catalog ↔ schemaTypes doc = .ok catalog.types :=
  of_types_bind_iff fun _ done => schema_types_make none (parsed_well_named parsed) done

/-- A text has a catalog exactly if it can be read, keeps all rules and its types can be worked
out. -/
theorem of_text_ok_iff {text : Text.Wide} {catalog : Catalog} :
    Catalog.ofText text = .ok catalog ↔
      ∃ doc, Document.parse text = .ok doc ∧ violations doc = [] ∧
        schemaTypes doc = .ok catalog.types := by
  unfold Catalog.ofText
  constructor
  · intro done
    split at done
    · cases done
    case h_2 doc parsed =>
      split at done
      case h_1 none =>
        split at done
        · cases done
        case h_2 built =>
          obtain rfl := Except.ok.inj done
          exact ⟨doc, parsed, none, (of_document_ok_iff parsed none).1 built⟩
      case h_2 => cases done
  · rintro ⟨doc, parsed, none, done⟩
    simp only [parsed, none, (of_document_ok_iff parsed none).2 done]

/-- An introspection result has one exactly if its types can be worked out. -/
theorem of_introspection_ok_iff {result : Json.Raw} {catalog : Catalog} :
    Catalog.ofIntrospection result = .ok catalog ↔
      introspectedTypes result = .ok catalog.types :=
  of_types_bind_iff fun _ => introspected_types_make

end StorefrontSurvey.Schema
