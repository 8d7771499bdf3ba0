import StorefrontSurvey.Schema.Loading
/-!
Which faults of a schema can be told. The messages about a text quote it, so they hold a half of a
surrogate pair only if the text does. A text that was decoded from bytes holds none, and no fault of
it as a schema in the schema language brings other words along: such a fault can always be told.
-/
namespace StorefrontSurvey.Schema

open Text (Point Wide)
open Text.Wide (whole_iff whole_sub whole_append whole_of whole_of_chars whole_joined)

variable {text line part message : Wide}

/-! ### Excerpts -/

theorem line_sub (member : line ∈ linesOf text) : line ⊆ text := by
  induction text using linesOf.induct generalizing line with
  | case1 =>
      rw [linesOf, List.mem_singleton] at member
      exact member ▸ List.Subset.refl _
  | case2 rest ih =>
      rw [linesOf, List.mem_cons] at member
      rcases member with rfl | member
      · exact List.nil_subset _
      · exact fun point inside => by simp [ih member inside]
  | case3 point rest _ ends ih =>
      rw [linesOf, if_pos ends, List.mem_cons] at member
      · rcases member with rfl | member
        · exact List.nil_subset _
        · exact List.subset_cons_of_subset _ (ih member)
      · assumption
  | case4 point rest _ goesOn none ih =>
      rw [linesOf, if_neg goesOn, none] at member
      · simp only [List.mem_singleton] at member
        simp [member]
      · assumption
  | case5 point rest _ goesOn first more lines ih =>
      rw [linesOf, if_neg goesOn, lines] at member
      · rw [lines] at ih
        rcases List.mem_cons.1 member with rfl | member
        · exact List.cons_subset_cons _ (ih List.mem_cons_self)
        · exact List.subset_cons_of_subset _ (ih (List.mem_cons_of_mem _ member))
      · assumption

theorem piece_sub {width fuel : Nat} (member : part ∈ pieces width fuel line) : part ⊆ line := by
  induction fuel generalizing line with
  | zero => simp [pieces] at member
  | succ fuel ih =>
      cases line with
      | nil => simp [pieces] at member
      | cons point rest =>
          rw [pieces, List.mem_cons] at member
          · rcases member with rfl | member
            · exact List.take_subset _ _
            · exact List.Subset.trans (ih member) (List.drop_subset _ _)
          · simp

theorem whole_labelled {lines : List (String × Wide)}
    (each : ∀ labelled ∈ lines, labelled.2.isWhole = true) :
    (labelled lines).isWhole = true := by
  unfold labelled
  apply whole_joined (whole_of _)
  intro shown member
  obtain ⟨⟨label, line⟩, inside, rfl⟩ := List.mem_map.1 member
  apply whole_append (whole_of _)
  split
  · rfl
  · exact whole_append (whole_of _) (each _ inside)

theorem whole_line (whole : text.isWhole = true) (index : Nat) :
    ((linesOf text).getD index []).isWhole = true := by
  rw [List.getD_eq_getElem?_getD]
  cases found : (linesOf text)[index]? with
  | none => rfl
  | some line => exact whole_sub (line_sub (List.mem_of_getElem? found)) whole

theorem whole_excerpt (whole : text.isWhole = true) (place : Place) :
    (excerpt text place).isWhole = true := by
  have line := whole_line whole
  unfold excerpt
  simp only []
  split
  · have piece : ∀ part ∈ pieces pieceWidth ((linesOf text).getD (place.line - 1) []).length
        ((linesOf text).getD (place.line - 1) []), part.isWhole = true :=
      fun part member => whole_sub (piece_sub member) (line _)
    apply whole_append (whole_of _)
    apply whole_labelled
    intro labelled member
    simp only [List.mem_append, List.mem_map, List.mem_singleton] at member
    rcases member with ((⟨part, inside, rfl⟩ | ⟨part, inside, rfl⟩) | rfl) | ⟨part, inside, rfl⟩
    · exact piece part (List.mem_of_mem_take inside)
    · exact piece part (List.mem_of_mem_take (List.mem_of_mem_drop inside))
    · exact whole_of _
    · exact piece part (List.mem_of_mem_drop (List.mem_of_mem_take inside))
  · apply whole_append (whole_of _)
    apply whole_labelled
    intro labelled member
    simp only [List.mem_append, List.mem_map, List.mem_cons, List.not_mem_nil, or_false] at member
    rcases member with (before | rfl | rfl) | ⟨after, inside, rfl⟩
    · split at before
      · simp at before
      · rw [List.mem_singleton] at before
        exact before ▸ line _
    · exact line _
    · exact whole_of _
    · exact whole_sub (line_sub (List.mem_of_mem_drop (List.mem_of_mem_take inside))) whole

theorem whole_located (whole : text.isWhole = true) (said : message.isWhole = true)
    (position : Nat) : (located text message position).isWhole = true :=
  whole_append (whole_append said (whole_of _)) (whole_excerpt whole _)

/-! ### Messages -/

theorem Cause.whole_message (whole : text.isWhole = true) (cause : Cause) :
    (cause.message text).isWhole = true := by
  cases cause with
  | badEscape size | badCodePoint size =>
      exact whole_append (whole_append (whole_of _) (whole_sub (List.take_subset _ _) whole))
        (whole_of _)
  | _ => exact whole_of _

theorem SyntaxFault.whole_message (whole : text.isWhole = true) (fault : SyntaxFault) :
    (fault.message text).isWhole = true :=
  whole_located whole (whole_append (whole_of _)
    (fault.cause.whole_message (whole_sub (List.drop_subset _ _) whole))) _

/-- The words that a fault brings along, and those that its cause does, are characters alone. -/
def BuildFault.IsPlain : BuildFault → Prop
  | .unresolved _ _ cause => cause.IsPlain
  | .introspection words => words.isWhole = true
  | .barred words => words.isWhole = true
  | .defaultValue text _ => text.isWhole = true
  | _ => True

theorem BuildFault.whole_message (whole : text.isWhole = true) {fault : BuildFault}
    (plain : fault.IsPlain) : (fault.message text).isWhole = true := by
  induction fault with
  | unresolved type part cause ih => exact whole_append (whole_of _) (ih plain)
  | badArgument | nullArgument | missingArgument => exact whole_located whole (whole_of _) _
  | introspection words | barred words => exact plain
  | defaultValue text fault => exact fault.whole_message plain
  | _ => exact whole_of _

/-! ### Builds -/

/-- What is built, or else a fault whose words are characters alone. -/
def FailsPlainly {α : Type} (outcome : Build α) : Prop :=
  ∀ fault, outcome = .error fault → fault.IsPlain

namespace FailsPlainly

variable {α β : Type} {outcome : Build α} {next : α → Build β}

theorem ok (a : α) : FailsPlainly (.ok a : Build α) := by
  intro fault failed
  cases failed

theorem error {fault : BuildFault} (plain : fault.IsPlain) :
    FailsPlainly (.error fault : Build α) := by
  intro other failed
  cases failed
  exact plain

theorem bind (first : FailsPlainly outcome) (rest : ∀ a, FailsPlainly (next a)) :
    FailsPlainly (outcome >>= next) := by
  intro fault failed
  cases outcome with
  | ok a => exact rest a fault failed
  | error other =>
      cases failed
      exact first _ rfl

/-- Nothing after a fault is looked at. -/
theorem thrown {fault : BuildFault} (plain : fault.IsPlain) :
    FailsPlainly ((throw fault : Build α) >>= next) := error plain

theorem map {f : α → β} (first : FailsPlainly outcome) : FailsPlainly (outcome.map f) := by
  intro fault failed
  cases outcome with
  | ok a => cases failed
  | error other =>
      cases failed
      exact first _ rfl

theorem mapM {f : α → Build β} (each : ∀ a, FailsPlainly (f a)) (items : List α) :
    FailsPlainly (items.mapM f) := by
  induction items with
  | nil => exact ok []
  | cons item rest ih =>
      rw [List.mapM_cons]
      exact bind (each item) fun b => bind ih fun bs => ok (b :: bs)

theorem forM {f : α → Build Unit} (each : ∀ a, FailsPlainly (f a)) (items : List α) :
    FailsPlainly (items.forM f) := by
  induction items with
  | nil => exact ok ()
  | cons item rest ih => exact bind (each item) fun _ => ih

end FailsPlainly

variable {types : Types}

/-- Input types fail plainly. -/
def Types.Plain (types : Types) : Prop := ∀ name, FailsPlainly (types.inputFields name)

theorem fits_fields_plainly {fittings : List Fitting} {fields : List InputField}
    (each : ∀ fitting ∈ fittings, ∀ type, FailsPlainly (fitting.fits type)) :
    FailsPlainly (fitsFields fittings fields) := by
  induction fields with
  | nil => exact .ok true
  | cons field rest ih =>
      rw [fitsFields]
      split
      · split
        · exact ih
        · exact .ok false
      · rename_i fitting found
        refine .bind (each fitting ?_ _) fun fit => ?_
        · exact List.mem_reverse.1 (List.mem_of_find?_eq_some found)
        · split
          · exact ih
          · exact .ok false

mutual

theorem fits_plainly (plain : types.Plain) (value : Value) (type : TypeRef) :
    FailsPlainly (fits types value type) := by
  match value with
  | .variable _ => exact .ok false
  | .null => exact .ok _
  | .list items =>
      rw [fits]
      split
      · exact fits_all_plainly plain items _
      · split
        · exact .ok _
        · exact .ok false
        · exact .ok false
        · exact .error trivial
  | .object fields =>
      rw [fits]
      split
      · exact .ok _
      · exact .ok false
      · refine .bind (plain _) fun declared => .bind ?_ fun fit => ?_
        · exact fits_fields_plainly (fittings_plainly plain fields)
        · split
          · exact .ok _
          · exact .ok false
      · exact .error trivial
  | .int _ | .float _ | .string _ | .block _ | .bool _ | .enum _ =>
      rw [fits]
      · split
        · exact .ok _
        · exact .ok _
        · exact .ok false
        · exact .error trivial
      all_goals simp

theorem fits_all_plainly (plain : types.Plain) (items : List Value) (type : TypeRef) :
    FailsPlainly (fitsAll types items type) := by
  match items with
  | [] => exact .ok true
  | value :: rest =>
      rw [fitsAll]
      split
      · split
        · exact .ok false
        · exact fits_all_plainly plain rest type
      · refine .bind (fits_plainly plain value type) fun fit => ?_
        split
        · exact fits_all_plainly plain rest type
        · exact .ok false

theorem fittings_plainly (plain : types.Plain) (fields : List (String × Value)) :
    ∀ fitting ∈ fittingsOf types fields, ∀ type, FailsPlainly (fitting.fits type) := by
  match fields with
  | [] => simp [fittingsOf]
  | (name, value) :: rest =>
      rw [fittingsOf]
      exact List.forall_mem_cons.2 ⟨fits_plainly plain value, fittings_plainly plain rest⟩

end

theorem fitting_default_plainly (plain : types.Plain) (default? : Option Value) (type : TypeRef) :
    FailsPlainly (fittingDefault? types default? type) := by
  cases default? with
  | none => exact .ok none
  | some value => exact .bind (fits_plainly plain value type) fun _ => .ok _

theorem check_deprecation_plainly (directives : List Directive) :
    FailsPlainly (checkDeprecation directives) := by
  unfold checkDeprecation
  split
  · split
    · exact .ok ()
    · exact .error trivial
  · exact .ok ()

theorem check_specification_plainly (directives : List Directive) :
    FailsPlainly (checkSpecification directives) := by
  unfold checkSpecification
  split
  · exact .ok ()
  · split
    · exact .error trivial
    · split
      · exact .error trivial
      · split
        · exact .ok ()
        · exact .error trivial

theorem input_field_plainly (plain : types.Plain) (fault : BuildFault) (told : fault.IsPlain)
    (value : InputValue) : FailsPlainly (inputField types fault value) := by
  unfold inputField
  refine .bind (fitting_default_plainly plain _ _) fun default? =>
    .bind (check_deprecation_plainly _) fun _ => ?_
  split
  · split
    · exact .ok _
    · exact .error told
  · exact .error told

theorem check_input_plainly (plain : types.Plain) (fault : BuildFault) (told : fault.IsPlain)
    (value : InputValue) : FailsPlainly (checkInput types fault value) :=
  .map (input_field_plainly plain fault told value)

theorem types_at_plain (source : Source) (depth : Nat) : (source.typesAt depth).Plain := by
  induction depth with
  | zero => exact fun name => .error trivial
  | succ depth ih =>
      intro name
      have fields := FailsPlainly.mapM (input_field_plainly ih .inputFieldNotInput trivial)
      simp only [Source.typesAt]
      split
      · exact .ok []
      · split
        · next cause failed => exact FailsPlainly.error (fields _ cause failed)
        · exact .ok _

theorem build_field_plainly (plain : types.Plain) (field : FieldDef) :
    FailsPlainly (buildField types field) := by
  unfold buildField
  refine .bind (.forM (check_input_plainly plain .argumentNotInput trivial) _) fun _ =>
    .bind (check_deprecation_plainly _) fun _ => ?_
  split
  · split
    · exact .ok _
    · exact .error trivial
  · exact .error trivial

theorem check_early_plainly (type : TypeDef) (parts : List TypeDef) :
    FailsPlainly (checkEarly type parts) := by
  unfold checkEarly
  split
  · exact check_specification_plainly _
  · refine .forM (fun part => ?_) parts
    split
    · exact .forM (fun _ => check_deprecation_plainly _) _
    · exact .ok ()
  · exact .ok ()

theorem build_type_plainly (plain : types.Plain) (source : Source) (type : TypeDef) :
    FailsPlainly (source.buildType types type) := by
  unfold Source.buildType
  split
  · exact .ok _
  · simp only []
    split
    · exact .thrown trivial
    · split
      · exact .thrown trivial
      · split
        · exact .bind (plain _) fun _ => .ok _
        · have fields := FailsPlainly.mapM (build_field_plainly plain)
          split
          · exact .ok _
          · next cause failed => exact FailsPlainly.error (fields _ cause failed)

theorem schema_types_plainly (doc : Document) : FailsPlainly (schemaTypes doc) := by
  have plain : (Source.of doc).toTypes.Plain := types_at_plain _ _
  unfold schemaTypes
  refine .bind (.forM (fun type => ?_) _) fun _ => .bind (.forM (fun directive => ?_) _) fun _ =>
    .bind (.mapM (build_type_plainly plain _) _) fun built => .ok _
  · split
    · exact .ok ()
    · exact check_early_plainly _ _
  · exact .forM (check_input_plainly plain .argumentNotInput trivial) _

theorem of_document_plainly (doc : Document) : FailsPlainly (Catalog.ofDocument doc) := by
  refine .bind (schema_types_plainly doc) fun types => ?_
  unfold Catalog.ofTypes
  split
  · exact .ok _
  · exact .error trivial

theorem of_text_whole (whole : text.isWhole = true) {fault : DefinitionFault}
    (failed : Catalog.ofText text = .error fault) : (fault.message text).isWhole = true := by
  unfold Catalog.ofText at failed
  split at failed
  · cases failed
    exact SyntaxFault.whole_message whole _
  · split at failed
    · split at failed
      · cases failed
        exact BuildFault.whole_message whole (of_document_plainly _ _ ‹_›)
      · cases failed
    · cases failed
      exact whole_of _

theorem from_definition_whole {chars : List Char} {fault : LoadFault}
    (failed : fromDefinition chars = .error fault) : (fault.message chars).isWhole = true := by
  unfold fromDefinition at failed
  split at failed
  · cases failed
  · next cause broken =>
      cases failed
      exact of_text_whole (whole_of_chars chars) broken

/-- Whatever the bytes are, it can be told why they are not a schema in the schema language. -/
theorem definition_reason_whole {bytes : List UInt8} {reason : Wide}
    (failed : load .definition bytes = .error reason) : reason.isWhole = true := by
  unfold load at failed
  split at failed
  · cases failed
    exact whole_of _
  · split at failed
    · cases failed
    · next fault broken =>
        cases failed
        exact from_definition_whole broken

end StorefrontSurvey.Schema
