import Mathlib.Data.List.Forall2
import Mathlib.Data.List.Pairwise
import StorefrontSurvey.Proofs.Schema.RuleWalk
import StorefrontSurvey.Schema.Loading
/-!
What is built of the types of a document. A type is built with the fields of its definition and of its
extensions, and in a document that keeps all rules these have distinct names.
-/
namespace StorefrontSurvey.Schema

variable {α β γ ε : Type}

/-! ### Items worked out one after another -/

theorem except_bind_ok {outcome : Except ε α} {next : α → Except ε β} {result : β}
    (done : (outcome >>= next) = .ok result) :
    ∃ a, outcome = .ok a ∧ next a = .ok result := by
  cases outcome with
  | error fault => cases done
  | ok a => exact ⟨a, rfl, done⟩

theorem map_m_forall {work : α → Except ε β} {list : List α} {results : List β}
    (done : list.mapM work = .ok results) :
    List.Forall₂ (fun a b => work a = .ok b) list results := by
  induction list generalizing results with
  | nil =>
      rw [List.mapM_nil] at done
      obtain rfl := Except.ok.inj done
      exact .nil
  | cons a rest ih =>
      rw [List.mapM_cons] at done
      obtain ⟨first, worked, more⟩ := except_bind_ok done
      obtain ⟨others, went, last⟩ := except_bind_ok more
      obtain rfl := Except.ok.inj last
      exact .cons worked (ih went)

/-- What each step keeps of its item, all of them keep of the list. -/
theorem map_m_keeps {work : α → Except ε β} {list : List α} {results : List β} {before : α → γ}
    {after : β → γ} (keeps : ∀ a b, work a = .ok b → after b = before a)
    (done : list.mapM work = .ok results) : results.map after = list.map before := by
  have worked := map_m_forall done
  clear done
  induction worked with
  | nil => rfl
  | cons here _ ih => rw [List.map_cons, List.map_cons, keeps _ _ here, ih]

theorem map_m_source {work : α → Except ε β} {list : List α} {results : List β} {b : β}
    (done : list.mapM work = .ok results) (member : b ∈ results) :
    ∃ a ∈ list, work a = .ok b := by
  have worked := map_m_forall done
  clear done
  induction worked with
  | nil => cases member
  | @cons a first rest others here _ ih =>
      rcases List.mem_cons.1 member with rfl | later
      · exact ⟨a, List.mem_cons_self, here⟩
      · obtain ⟨source, among, worked⟩ := ih later
        exact ⟨source, List.mem_cons_of_mem _ among, worked⟩

/-- What is found by a key is there and has it. -/
theorem found_by_key {key : α → String} {list : List α} {name : String} {a : α}
    (found : list.find? (fun b => key b == name) = some a) : a ∈ list ∧ key a = name := by
  have same : (key a == name) = true := by
    simpa using List.find?_some (p := fun b => key b == name) found
  exact ⟨List.mem_of_find?_eq_some found, eq_of_beq same⟩

/-! ### Parts of a type -/

theorem field_names_sub (body : TypeBody) :
    (body.fieldDefs.map FieldDef.name).Sublist body.fieldNames := by
  cases body with
  | object _ fields | interface _ fields => exact List.Sublist.refl _
  | scalar | union | enum | input => exact List.nil_sublist _

def TypeDef.answerNames (d : TypeDef) : List String := d.body.fieldDefs.map FieldDef.name

theorem answer_names_nodup {d : TypeDef} (nodup : d.typedFields.Nodup) : d.answerNames.Nodup :=
  (List.Nodup.of_map _ nodup).sublist (field_names_sub d.body)

theorem answer_names_disjoint {first second : TypeDef} (same : first.name = second.name)
    (apart : List.Disjoint first.typedFields second.typedFields) :
    List.Disjoint first.answerNames second.answerNames := by
  intro name here there
  refine apart (a := (first.name, name)) ?_ ?_
  · exact List.mem_map_of_mem ((field_names_sub first.body).subset here)
  · rw [same]
    exact List.mem_map_of_mem ((field_names_sub second.body).subset there)

theorem mem_defined {doc : Document} {d : TypeDef} :
    d ∈ definedTypes doc ↔ Definition.type d ∈ doc := by
  unfold definedTypes
  rw [List.mem_filterMap]
  constructor
  · rintro ⟨definition, member, found⟩
    cases definition <;> cases found
    exact member
  · exact fun member => ⟨_, member, rfl⟩

theorem mem_extensions {doc : Document} {d : TypeDef} :
    d ∈ (Source.of doc).extensions ↔ Definition.typeExtension d ∈ doc := by
  simp only [Source.of, List.mem_filterMap]
  constructor
  · rintro ⟨definition, member, found⟩
    cases definition <;> cases found
    exact member
  · exact fun member => ⟨_, member, rfl⟩

/-- The fields of two definitions have nothing in common. -/
def Apart (first second : Definition) : Prop :=
  List.Disjoint first.gathered.fields second.gathered.fields

theorem extensions_apart {doc : Document} (apart : doc.Pairwise Apart) :
    (Source.of doc).extensions.Pairwise fun first second =>
      List.Disjoint first.typedFields second.typedFields := by
  refine List.Pairwise.filterMap _ (fun first second disjoint d found other met => ?_) apart
  cases first <;> cases found
  cases second <;> cases met
  exact disjoint

/-- In a document that keeps all rules, the fields that a type and its extensions answer with have
distinct names. -/
theorem parts_answer_names_nodup {doc : Document} (none : violations doc = []) {d : TypeDef}
    (defined : d ∈ definedTypes doc) :
    (((Source.of doc).parts d).flatMap TypeDef.answerNames).Nodup := by
  have distinct : (doc.flatMap fun definition => definition.gathered.fields).Nodup :=
    (gathered_distinct none).2
  obtain ⟨each, apart⟩ := List.nodup_flatMap.1 distinct
  have extended (e : TypeDef)
      (member : e ∈ (Source.of doc).extensions.filter fun e => e.name == d.name) :
      Definition.typeExtension e ∈ doc ∧ e.name = d.name := by
    obtain ⟨among, same⟩ := List.mem_filter.1 member
    exact ⟨mem_extensions.1 among, eq_of_beq same⟩
  refine List.nodup_flatMap.2 ⟨?_, List.pairwise_cons.2 ⟨?_, ?_⟩⟩
  · intro part member
    rcases List.mem_cons.1 member with rfl | extension
    · exact answer_names_nodup (each _ (mem_defined.1 defined))
    · exact answer_names_nodup (each _ (extended part extension).1)
  · intro e member
    obtain ⟨among, same⟩ := extended e member
    have symmetric : Std.Symm Apart := ⟨fun _ _ disjoint _ here there => disjoint there here⟩
    have pairwise : doc.Pairwise Apart := apart
    have disjoint := pairwise.forall (mem_defined.1 defined) among (by simp)
    exact answer_names_disjoint same.symm disjoint
  · refine ((extensions_apart apart).filter _).imp_of_mem fun first second disjoint => ?_
    have same := (extended _ first).2.trans (extended _ second).2.symm
    exact answer_names_disjoint same disjoint

/-! ### Types of a document -/

theorem standard_fit : ∀ t ∈ standardTypes, t.Fit := by decide +kernel

theorem well_fielded_nil : WellFielded [] := ⟨List.nodup_nil, List.forall_mem_nil _⟩

theorem standard_type_found {name : String} {t : NamedType} (found : standardType? name = some t) :
    t ∈ standardTypes ∧ t.name = name :=
  found_by_key found

theorem build_field_name {types : Types} {f : FieldDef} {field : Field}
    (built : buildField types f = .ok field) : field.name = f.name := by
  obtain ⟨_, _, built⟩ := except_bind_ok built
  obtain ⟨_, _, built⟩ := except_bind_ok built
  split at built
  · split_ifs at built
    obtain rfl := Except.ok.inj built
    rfl
  · cases built

/-- What is built of a type: one that is known, one without fields, or one with the fields of all its
parts. -/
inductive Built (s : Source) (d : TypeDef) : NamedType → Prop
  | standard {t : NamedType} (known : standardType? d.name = some t) : Built s d t
  | bare (kind : Kind) : Built s d ⟨d.name, kind, []⟩
  | whole (kind : Kind) {fields : List Field}
      (names : fields.map Field.name = (s.parts d).flatMap TypeDef.answerNames) :
      Built s d ⟨d.name, kind, fields⟩

theorem build_type_built {s : Source} {types : Types} {d : TypeDef} {t : NamedType}
    (done : s.buildType types d = .ok t) : Built s d t := by
  unfold Source.buildType at done
  cases known : standardType? d.name with
  | some standard =>
      rw [known] at done
      obtain rfl := Except.ok.inj done
      exact .standard known
  | none =>
      rw [known] at done
      dsimp only at done
      split_ifs at done
      iterate 3
        obtain ⟨_, thrown, _⟩ := except_bind_ok done
        cases thrown
      split at done
      · obtain ⟨_, _, done⟩ := except_bind_ok done
        obtain rfl := Except.ok.inj done
        exact .bare .input
      · split at done
        case h_1 fields worked =>
          obtain rfl := Except.ok.inj done
          refine .whole _ ?_
          rw [map_m_keeps (fun f field => build_field_name) worked, List.map_flatMap]
          rfl
        case h_2 => cases done

end StorefrontSurvey.Schema
