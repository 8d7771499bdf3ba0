import StorefrontSurvey.Proofs.Schema.FieldNames
/-!
Names in a document. Every name among the tokens of a text is a name of the schema language, and the
parser takes the names of types and of their fields from there alone.
-/
namespace StorefrontSurvey.Schema

open Text (Point Wide)

/-! ### Tokens -/

/-- A lexeme that is a name, if it is one, is a name of the schema language. -/
def Lexeme.Proper (lexeme : Lexeme) : Prop := ∀ text, lexeme = .name text → isName text = true

def Tokens.Proper : Tokens → Prop
  | .more token rest => token.lexeme.Proper ∧ rest.Proper
  | _ => True

theorem block_lexeme {fuel position size : Nat} {lines : List (List Char)} {line : List Char}
    {text : Wide} {scanned : Scanned}
    (done : scanBlock fuel position size lines line text = .ok scanned) :
    ∃ value, scanned.lexeme = .block value := by
  induction fuel generalizing size lines line text with
  | zero => cases done
  | succ fuel ih =>
      rw [scanBlock.eq_def] at done
      dsimp only at done
      split at done
      · cases done
      · cases done
      · obtain rfl := Except.ok.inj done
        exact ⟨_, rfl⟩
      · exact ih done
      · exact ih done
      · split_ifs at done
        · exact ih done
        · exact ih done

theorem string_lexeme {fuel position size : Nat} {read : List Char} {text : Wide}
    {scanned : Scanned} (done : scanString fuel position size read text = .ok scanned) :
    ∃ value, scanned.lexeme = .string value := by
  induction fuel generalizing size read text with
  | zero => cases done
  | succ fuel ih =>
      rw [scanString.eq_def] at done
      dsimp only at done
      split at done
      · cases done
      · cases done
      · split_ifs at done
        · obtain rfl := Except.ok.inj done
          exact ⟨_, rfl⟩
        · split at done
          · cases done
          · exact ih done
        · exact ih done

theorem number_lexeme {position : Nat} {text : Wide} {scanned : Scanned}
    (done : scanNumber position text = .ok scanned) :
    ∃ written, scanned.lexeme = .int written ∨ scanned.lexeme = .float written := by
  obtain ⟨_, _, done⟩ := except_bind_ok done
  obtain ⟨⟨fraction, _⟩, _, done⟩ := except_bind_ok done
  obtain ⟨⟨exponent, _⟩, _, done⟩ := except_bind_ok done
  have shape : ∃ read size rest, scanned =
      ⟨if fraction = [] ∧ exponent = [] then .int read else .float read, size, rest⟩ := by
    dsimp only at done
    split at done
    · split at done
      · cases done
      · exact ⟨_, _, _, (Except.ok.inj done).symm⟩
    · exact ⟨_, _, _, (Except.ok.inj done).symm⟩
  obtain ⟨read, size, rest, rfl⟩ := shape
  dsimp only
  split_ifs
  · exact ⟨read, .inl rfl⟩
  · exact ⟨read, .inr rfl⟩

theorem span_front_has (has : Char → Bool) (text : Wide) :
    (Wide.span has text).1.all has = true := by
  induction text with
  | nil => rfl
  | cons point rest ih =>
      cases point with
      | half place => rfl
      | char c =>
          rw [Wide.span]
          split_ifs with here
          · rw [List.all_cons, here, ih]
            rfl
          · rfl

theorem name_part_of_start {c : Char} (start : isNameStart c = true) : isNamePart c = true := by
  unfold isNameStart at start
  unfold isNamePart Char.isAlphanum
  rcases Bool.or_eq_true_iff.1 start with letter | underscore
  · rw [letter]
    rfl
  · rw [underscore, Bool.or_true]

theorem span_name {c : Char} {rest : Wide} (start : isNameStart c = true) :
    isName (String.ofList (Wide.span isNamePart (.char c :: rest)).1) = true := by
  have parts := span_front_has isNamePart rest
  rw [Wide.span, if_pos (name_part_of_start start), isName, String.toList_ofList]
  exact Bool.and_eq_true_iff.2 ⟨start, parts⟩

theorem scan_lexeme_proper {position : Nat} {text : Wide} {scanned : Scanned}
    (done : scanLexeme position text = .ok scanned) : scanned.lexeme.Proper := by
  unfold scanLexeme at done
  split at done
  · obtain rfl := Except.ok.inj done
    rintro name ⟨⟩
  · cases done
  · obtain ⟨value, block⟩ := block_lexeme done
    rw [block]
    rintro name ⟨⟩
  · obtain ⟨value, string⟩ := string_lexeme done
    rw [string]
    rintro name ⟨⟩
  · obtain rfl := Except.ok.inj done
    rintro name ⟨⟩
  · split at done
    · obtain rfl := Except.ok.inj done
      rintro name ⟨⟩
    · split_ifs at done with digit start
      · obtain ⟨written, int | float⟩ := number_lexeme done
        · rw [int]
          rintro name ⟨⟩
        · rw [float]
          rintro name ⟨⟩
      · obtain rfl := Except.ok.inj done
        rintro name ⟨⟩
        exact span_name start

theorem scan_tokens_proper (fuel position : Nat) (text : Wide) :
    (scanTokens fuel position text).Proper := by
  induction fuel generalizing position text with
  | zero => cases text <;> exact trivial
  | succ fuel ih =>
      cases text with
      | nil => exact trivial
      | cons point rest =>
          cases point with
          | half place => exact trivial
          | char c =>
              rw [scanTokens]
              split_ifs
              · exact ih _ _
              · exact ih _ _
              · split
                · exact trivial
                case h_2 scanned found => exact ⟨scan_lexeme_proper found, ih _ _⟩

/-! ### Parsers -/

/-- A parser that succeeds on proper tokens leaves such tokens, and its result has a property. -/
def Yields {α : Type} (p : Parser α) (property : α → Prop) : Prop :=
  ∀ tokens a rest, tokens.Proper → p.run tokens = .ok (a, rest) → rest.Proper ∧ property a

abbrev Keeps {α : Type} (p : Parser α) : Prop := Yields p fun _ => True

namespace Yields

variable {α β : Type} {p second : Parser α} {next : α → Parser β} {property : α → Prop}
  {other : β → Prop}

theorem done {a : α} (holds : property a) : Yields (pure a) property := by
  rintro tokens _ _ proper ⟨⟩
  exact ⟨proper, holds⟩

theorem bind (first : Yields p property) (after : ∀ a, property a → Yields (next a) other) :
    Yields (p >>= next) other := by
  intro tokens b rest proper ran
  obtain ⟨⟨a, between⟩, went, ran⟩ := except_bind_ok ran
  obtain ⟨kept, holds⟩ := first tokens a between proper went
  exact after a holds between b rest kept ran

theorem keep (yields : Yields p property) : Keeps p :=
  fun tokens a rest proper ran => ⟨(yields tokens a rest proper ran).1, trivial⟩

/-- A result that counts for nothing after it. -/
theorem andThen (first : Keeps p) (after : ∀ a, Yields (next a) other) :
    Yields (p >>= next) other :=
  first.bind fun a _ => after a

theorem fail (cause : Cause) (position : Nat) : Yields (Parser.fail cause position) property := by
  rintro tokens a rest proper ⟨⟩

variable {condition : Prop} [Decidable condition]

theorem ite (yes : Yields p property) (no : Yields second property) :
    Yields (if condition then p else second) property := by
  split
  · exact yes
  · exact no

/-- Two ways to a result, with one way on from it. -/
theorem either (yes : Keeps p) (no : Keeps second) (after : ∀ a, Yields (next a) other) :
    Yields (if condition then p >>= next else second >>= next) other :=
  .ite (yes.andThen after) (no.andThen after)

/-- What is gone on with unless something stops it. -/
theorem past {stop : Parser Unit} {next : Unit → Parser β} (stops : Keeps stop)
    (after : Yields (next ()) other) : Yields (if condition then stop >>= next else next ()) other :=
  .ite (stops.andThen fun _ => after) after

end Yields

namespace Parser

variable {α : Type} {item : Parser α} {property : α → Prop}

theorem kept {a : α} : Keeps (pure a : Parser α) := .done trivial

theorem unexpected_yields (token : Token) : Yields (unexpected token : Parser α) property :=
  .fail _ _

theorem head_proper {tokens : Tokens} (proper : tokens.Proper) : tokens.head.lexeme.Proper := by
  cases tokens with
  | eof | broken => rintro name ⟨⟩
  | more token rest => exact proper.1

theorem peek_yields : Yields peek fun token => token.lexeme.Proper := by
  rintro tokens _ _ proper ⟨⟩
  exact ⟨proper, head_proper proper⟩

theorem peek_keeps : Keeps peek := peek_yields.keep

theorem advance_keeps : Keeps advance := by
  rintro tokens _ rest proper ran
  cases tokens with
  | eof | broken =>
      cases ran
      exact ⟨proper, trivial⟩
  | more token later =>
      cases later with
      | broken => cases ran
      | eof | more =>
          cases ran
          exact ⟨proper.2, trivial⟩

theorem peek_next_keeps : Keeps peekNext := by
  rintro tokens token rest proper ran
  cases tokens with
  | eof | broken =>
      cases ran
      exact ⟨proper, trivial⟩
  | more first later =>
      cases later with
      | broken => cases ran
      | eof | more =>
          cases ran
          exact ⟨proper, trivial⟩

theorem at_punct_keeps (p : Punct) : Keeps (atPunct p) := peek_keeps.andThen fun _ => kept

theorem skip_keeps (p : Punct) : Keeps (skip p) :=
  (at_punct_keeps p).andThen fun _ => .ite (advance_keeps.andThen fun _ => kept) kept

theorem expect_punct_keeps (p : Punct) : Keeps (expectPunct p) :=
  peek_keeps.andThen fun _ => .ite advance_keeps (.fail _ _)

theorem name_yields : Yields name fun text => isName text = true := by
  refine peek_yields.bind fun token proper => ?_
  split
  case h_1 text is => exact advance_keeps.andThen fun _ => .done (proper text is)
  case h_2 => exact .fail _ _

theorem expect_word_keeps (word : String) : Keeps (expectWord word) :=
  peek_keeps.andThen fun _ => .ite advance_keeps (.fail _ _)

theorem skip_word_keeps (word : String) : Keeps (skipWord word) :=
  peek_keeps.andThen fun _ => .ite (advance_keeps.andThen fun _ => kept) kept

/-! ### Lists of items -/

theorem cons_yields {first : Parser α} {rest : Parser (List α)} (here : Yields first property)
    (later : Yields rest fun items => ∀ a ∈ items, property a) :
    Yields (do return (← first) :: (← rest)) fun items => ∀ a ∈ items, property a :=
  here.bind fun _ holds => later.bind fun _ others =>
    .done (List.forall_mem_cons.2 ⟨holds, others⟩)

theorem nil_yields : Yields (pure [] : Parser (List α)) fun items => ∀ a ∈ items, property a :=
  .done (List.forall_mem_nil _)

theorem items_until_yields (close : Punct) (yields : Yields item property) (bound : Nat) :
    Yields (itemsUntil close item bound) fun items => ∀ a ∈ items, property a := by
  induction bound with
  | zero => exact nil_yields
  | succ bound ih =>
      exact (skip_keeps close).andThen fun _ => .ite nil_yields (cons_yields yields ih)

theorem some_items_yields (bound : Nat) (close : Punct) (yields : Yields item property) :
    Yields (someItems bound close item) fun items => ∀ a ∈ items, property a :=
  cons_yields yields (items_until_yields close yields bound)

theorem between_yields (bound : Nat) (openP close : Punct) (yields : Yields item property) :
    Yields (between bound openP close item) fun items => ∀ a ∈ items, property a :=
  (expect_punct_keeps openP).andThen fun _ => some_items_yields bound close yields

theorem optional_between_yields (bound : Nat) (openP close : Punct)
    (yields : Yields item property) :
    Yields (optionalBetween bound openP close item) fun items => ∀ a ∈ items, property a :=
  (skip_keeps openP).andThen fun _ => .ite (some_items_yields bound close yields) nil_yields

theorem more_delimited_yields (delimiter : Punct) (yields : Yields item property) (bound : Nat) :
    Yields (moreDelimited delimiter item bound) fun items => ∀ a ∈ items, property a := by
  induction bound with
  | zero => exact nil_yields
  | succ bound ih =>
      exact (skip_keeps delimiter).andThen fun _ => .ite (cons_yields yields ih) nil_yields

theorem delimited_yields (bound : Nat) (delimiter : Punct) (yields : Yields item property) :
    Yields (delimited bound delimiter item) fun items => ∀ a ∈ items, property a :=
  (skip_keeps delimiter).andThen fun _ =>
    cons_yields yields (more_delimited_yields delimiter yields bound)

/-! ### Types and values -/

theorem too_deep_yields : Yields (tooDeep : Parser α) property :=
  peek_keeps.andThen fun _ => .fail _ _

theorem type_with_keeps {inner : Parser TypeRef} (keeps : Keeps inner) : Keeps (typeWith inner) := by
  have close (type : TypeRef) :
      Keeps (do if ← skip .bang then return .nonNull type else return type) :=
    (skip_keeps _).andThen fun _ => .ite kept kept
  refine (skip_keeps _).andThen fun _ => .ite ?_ ?_
  · exact keeps.andThen fun _ => (expect_punct_keeps _).andThen fun _ => kept.andThen close
  · exact name_yields.keep.andThen fun _ => kept.andThen close

theorem type_ref_in_keeps (levels : Nat) : Keeps (typeRefIn levels) := by
  induction levels with
  | zero => exact type_with_keeps too_deep_yields
  | succ levels ih => exact type_with_keeps ih

theorem variable_value_keeps (constant : Bool) : Keeps (variableValue constant) := by
  refine peek_keeps.andThen fun _ => (expect_punct_keeps _).andThen fun _ => .ite ?_ ?_
  · refine peek_keeps.andThen fun token => ?_
    split
    · exact .fail _ _
    · exact unexpected_yields _
  · exact name_yields.keep.andThen fun _ => kept

theorem object_field_keeps {inner : Parser Value} (keeps : Keeps inner) :
    Keeps (objectField inner) :=
  name_yields.keep.andThen fun _ => (expect_punct_keeps _).andThen fun _ =>
    keeps.andThen fun _ => kept

theorem value_with_keeps (constant : Bool) (bound : Nat) {inner? : Option (Parser Value)}
    (keeps : ∀ inner ∈ inner?, Keeps inner) : Keeps (valueWith constant bound inner?) := by
  refine peek_keeps.andThen fun token => ?_
  split
  · split
    · exact too_deep_yields
    case h_2 inner =>
      have items := items_until_yields .bracketR (keeps inner rfl) bound
      exact advance_keeps.andThen fun _ => items.keep.andThen fun _ => kept
  · split
    · exact too_deep_yields
    case h_2 inner =>
      have items := items_until_yields .braceR (object_field_keeps (keeps inner rfl)) bound
      exact advance_keeps.andThen fun _ => items.keep.andThen fun _ => kept
  · exact advance_keeps.andThen fun _ => kept
  · exact advance_keeps.andThen fun _ => kept
  · exact advance_keeps.andThen fun _ => kept
  · exact advance_keeps.andThen fun _ => kept
  · exact advance_keeps.andThen fun _ => kept
  · exact variable_value_keeps constant
  · exact unexpected_yields token

theorem value_keeps (constant : Bool) (bound levels : Nat) :
    Keeps (value constant bound levels) := by
  induction levels with
  | zero => exact value_with_keeps constant bound (by simp)
  | succ levels ih =>
      refine value_with_keeps constant bound fun inner is => ?_
      obtain rfl := Option.some.inj is
      exact ih

/-! ### Parts of definitions -/

theorem argument_keeps (constant : Bool) (bound levels : Nat) :
    Keeps (argument constant bound levels) :=
  name_yields.keep.andThen fun _ => (expect_punct_keeps _).andThen fun _ =>
    peek_keeps.andThen fun _ => (value_keeps constant bound levels).andThen fun _ => kept

theorem arguments_in_keeps (constant : Bool) (bound levels : Nat) :
    Keeps (argumentsIn constant bound levels) :=
  (optional_between_yields bound _ _ (argument_keeps constant bound levels)).keep

theorem directive_keeps (constant : Bool) (bound levels : Nat) :
    Keeps (directive constant bound levels) :=
  peek_keeps.andThen fun _ => (expect_punct_keeps _).andThen fun _ =>
    name_yields.keep.andThen fun _ =>
      (arguments_in_keeps constant bound levels).andThen fun _ => kept

theorem directives_from_keeps (constant : Bool) (width levels bound : Nat) :
    Keeps (directivesFrom constant width levels bound) := by
  induction bound with
  | zero => exact kept
  | succ bound ih =>
      refine (at_punct_keeps _).andThen fun _ => .ite ?_ kept
      exact (directive_keeps constant width levels).andThen fun _ => ih.andThen fun _ => kept

theorem directives_keeps (constant : Bool) (bound : Nat) : Keeps (directives constant bound) :=
  directives_from_keeps constant bound mostLevels bound

theorem description_keeps : Keeps description :=
  peek_keeps.andThen fun _ => .ite advance_keeps kept

theorem default_keeps (bound : Nat) {next : Option Value → Parser α}
    (after : ∀ default?, Keeps (next default?)) :
    Keeps (skip .equals >>= fun given =>
      if given then some <$> value true bound mostLevels >>= next else pure none >>= next) := by
  have default : Keeps (some <$> value true bound mostLevels) :=
    (value_keeps true bound mostLevels).andThen fun _ => kept
  exact (skip_keeps _).andThen fun _ => .either default kept after

theorem input_value_keeps (bound : Nat) : Keeps (inputValue bound) :=
  description_keeps.andThen fun _ => name_yields.keep.andThen fun _ =>
    (expect_punct_keeps _).andThen fun _ => (type_ref_in_keeps _).andThen fun _ =>
      default_keeps bound fun _ => (directives_keeps true bound).andThen fun _ => kept

theorem argument_defs_keeps (bound : Nat) : Keeps (argumentDefs bound) :=
  (optional_between_yields bound _ _ (input_value_keeps bound)).keep

theorem field_def_yields (bound : Nat) : Yields (fieldDef bound) fun f => isName f.name = true :=
  description_keeps.andThen fun _ => name_yields.bind fun _ named =>
    (argument_defs_keeps bound).andThen fun _ => (expect_punct_keeps _).andThen fun _ =>
      (type_ref_in_keeps _).andThen fun _ => (directives_keeps true bound).andThen fun _ =>
        .done named

theorem field_defs_yields (bound : Nat) :
    Yields (fieldDefs bound) fun fields => ∀ f ∈ fields, isName f.name = true :=
  optional_between_yields bound _ _ (field_def_yields bound)

theorem interfaces_keeps (bound : Nat) : Keeps (interfaces bound) :=
  (skip_word_keeps _).andThen fun _ => .ite (delimited_yields bound _ name_yields).keep kept

theorem enum_value_def_keeps (bound : Nat) : Keeps (enumValueDef bound) := by
  have key : Keeps enumValueName :=
    peek_keeps.andThen fun _ => .ite (.fail _ _) name_yields.keep
  exact description_keeps.andThen fun _ => key.andThen fun _ =>
    (directives_keeps true bound).andThen fun _ => kept

theorem operation_word_keeps : Keeps operationWord := by
  refine peek_keeps.andThen fun token => name_yields.keep.andThen fun word => ?_
  split
  · exact kept
  · exact unexpected_yields token

theorem operation_type_keeps : Keeps operationType :=
  operation_word_keeps.andThen fun _ => (expect_punct_keeps _).andThen fun _ =>
    name_yields.keep.andThen fun _ => kept

theorem site_keeps : Keeps site := by
  refine peek_keeps.andThen fun token => name_yields.keep.andThen fun word => ?_
  split
  · exact kept
  · exact unexpected_yields token

theorem union_members_keeps (bound : Nat) : Keeps (unionMembers bound) :=
  (skip_keeps _).andThen fun _ => .ite (delimited_yields bound _ name_yields).keep kept

end Parser

/-! ### Definitions of types -/

/-- A type and its fields have names of the schema language. -/
def TypeDef.WellNamed (d : TypeDef) : Prop :=
  isName d.name = true ∧ ∀ f ∈ d.body.fieldDefs, isName f.name = true

def Definition.WellNamed : Definition → Prop
  | .type d => d.WellNamed
  | .typeExtension d => d.WellNamed
  | _ => True

namespace Parser

theorem fieldless_yields {name : String} {ds : List Directive} {p : Parser α} {body : α → TypeBody}
    (none : ∀ a, (body a).fieldDefs = []) (named : isName name = true) (keeps : Keeps p) :
    Yields (do return ⟨name, ds, body (← p)⟩) TypeDef.WellNamed := by
  refine keeps.andThen fun a => .done ⟨named, ?_⟩
  rw [none a]
  exact List.forall_mem_nil _

theorem fielded_yields (bound : Nat) {name : String} {ds : List Directive}
    {body : List FieldDef → TypeBody} (all : ∀ fields, (body fields).fieldDefs = fields)
    (named : isName name = true) :
    Yields (do return ⟨name, ds, body (← fieldDefs bound)⟩) TypeDef.WellNamed := by
  refine (field_defs_yields bound).bind fun fields names => .done ⟨named, ?_⟩
  rw [all fields]
  exact names

theorem type_after_yields (bound : Nat) (word : String) :
    Yields (typeAfter bound word) TypeDef.WellNamed := by
  have directives := directives_keeps true bound
  have interfaces := interfaces_keeps bound
  have enumValues := (optional_between_yields bound .braceL .braceR (enum_value_def_keeps bound)).keep
  have inputs := (optional_between_yields bound .braceL .braceR (input_value_keeps bound)).keep
  unfold typeAfter
  split
  · exact name_yields.bind fun _ named => directives.andThen fun _ =>
      .done ⟨named, List.forall_mem_nil _⟩
  · exact name_yields.bind fun _ named => interfaces.andThen fun _ =>
      directives.andThen fun _ => fielded_yields bound (fun _ => rfl) named
  · exact name_yields.bind fun _ named => interfaces.andThen fun _ =>
      directives.andThen fun _ => fielded_yields bound (fun _ => rfl) named
  · exact name_yields.bind fun _ named => directives.andThen fun _ =>
      fieldless_yields (fun _ => rfl) named (union_members_keeps bound)
  · exact name_yields.bind fun _ named => directives.andThen fun _ =>
      fieldless_yields (fun _ => rfl) named enumValues
  · exact name_yields.bind fun _ named => directives.andThen fun _ =>
      fieldless_yields (fun _ => rfl) named inputs

theorem schema_def_yields (bound : Nat) : Yields (schemaDef bound) Definition.WellNamed :=
  (expect_word_keeps _).andThen fun _ => (directives_keeps true bound).andThen fun _ =>
    (between_yields bound _ _ operation_type_keeps).keep.andThen fun _ => .done trivial

theorem directive_def_yields (bound : Nat) : Yields (directiveDef bound) Definition.WellNamed :=
  (expect_word_keeps _).andThen fun _ => (expect_punct_keeps _).andThen fun _ =>
    name_yields.keep.andThen fun _ => (argument_defs_keeps bound).andThen fun _ =>
      (skip_word_keeps _).andThen fun _ => (expect_word_keeps _).andThen fun _ =>
        (delimited_yields bound _ site_keeps).keep.andThen fun _ => .done trivial

theorem extension_yields (bound : Nat) : Yields (extension bound) Definition.WellNamed := by
  -- An extension that adds nothing is refused, and nothing comes of it.
  have onward {condition : Bool} {d : Definition} (named : d.WellNamed) :
      Yields (if condition then peek >>= fun token => unexpected token >>= fun _ : Unit => pure d
        else pure d) Definition.WellNamed := by
    refine .ite (peek_keeps.andThen fun token => ?_) (.done named)
    exact (unexpected_yields token).andThen fun _ => .done named
  refine peek_next_keeps.andThen fun keyword => ?_
  split
  · exact advance_keeps.andThen fun _ => advance_keeps.andThen fun _ =>
      (directives_keeps true bound).andThen fun _ =>
        (optional_between_yields bound _ _ operation_type_keeps).keep.andThen fun _ =>
          onward trivial
  · refine .ite ?_ (unexpected_yields keyword)
    exact advance_keeps.andThen fun _ => advance_keeps.andThen fun _ =>
      (type_after_yields bound _).bind fun d named => onward named
  · exact unexpected_yields keyword

/-! ### Executable definitions -/

theorem fragment_name_keeps : Keeps fragmentName := by
  refine peek_keeps.andThen fun token => ?_
  split
  · exact unexpected_yields token
  · exact unexpected_yields token
  · exact unexpected_yields token
  · exact name_yields.keep

theorem directives_in_keeps (constant : Bool) (bound levels : Nat) :
    Keeps (directivesIn constant bound levels) :=
  directives_from_keeps constant bound levels bound

theorem selection_keeps (bound levels : Nat) {inner : Parser (List Selection)}
    (keeps : Keeps inner) : Keeps (selection bound levels inner) := by
  have ds := directives_in_keeps false bound levels
  refine (skip_keeps _).andThen fun _ => .ite ?_ ?_
  · refine (skip_word_keeps _).andThen fun _ => .ite ?_ ?_
    · exact name_yields.keep.andThen fun _ => ds.andThen fun _ => keeps.andThen fun _ => kept
    · refine peek_keeps.andThen fun token => ?_
      split
      · exact fragment_name_keeps.andThen fun _ => ds.andThen fun _ => kept
      · exact ds.andThen fun _ => keeps.andThen fun _ => kept
  · have after : Keeps (argumentsIn false bound levels >>= fun args =>
        directivesIn false bound levels >>= fun ds => atPunct .braceL >>= fun nested =>
          if nested then inner >>= fun selections => pure (Selection.field args ds selections)
          else pure (.field args ds [])) :=
      (arguments_in_keeps false bound levels).andThen fun _ => ds.andThen fun _ =>
        (at_punct_keeps _).andThen fun _ => .ite (keeps.andThen fun _ => kept) kept
    refine name_yields.keep.andThen fun _ => (skip_keeps _).andThen fun _ => .ite ?_ after
    exact name_yields.keep.andThen fun _ => after

theorem selections_in_keeps (bound levels : Nat) : Keeps (selectionsIn bound levels) := by
  induction levels with
  | zero => exact too_deep_yields
  | succ levels ih => exact (between_yields bound _ _ (selection_keeps bound levels ih)).keep

theorem selection_set_keeps (bound : Nat) : Keeps (selectionSet bound) :=
  selections_in_keeps bound mostLevels

theorem variable_def_keeps (bound : Nat) : Keeps (variableDef bound) :=
  description_keeps.andThen fun _ => (variable_value_keeps false).andThen fun _ =>
    (expect_punct_keeps _).andThen fun _ => (type_ref_in_keeps _).andThen fun _ =>
      default_keeps bound fun _ => (directives_keeps true bound).andThen fun _ => kept

theorem operation_def_yields (bound : Nat) : Yields (operationDef bound) Definition.WellNamed := by
  have after (operation : Operation) :
      Yields (optionalBetween bound .parenL .parenR (variableDef bound) >>= fun declared =>
        directives false bound >>= fun ds => selectionSet bound >>= fun selections =>
          pure (Definition.operation operation declared ds selections)) Definition.WellNamed :=
    (optional_between_yields bound _ _ (variable_def_keeps bound)).keep.andThen fun _ =>
      (directives_keeps false bound).andThen fun _ =>
        (selection_set_keeps bound).andThen fun _ => .done trivial
  refine operation_word_keeps.andThen fun operation => peek_keeps.andThen fun token => ?_
  split
  · exact advance_keeps.andThen fun _ => after operation
  · exact after operation

theorem fragment_def_yields (bound : Nat) : Yields (fragmentDef bound) Definition.WellNamed :=
  (expect_word_keeps _).andThen fun _ => fragment_name_keeps.andThen fun _ =>
    (expect_word_keeps _).andThen fun _ => name_yields.keep.andThen fun _ =>
      (directives_keeps false bound).andThen fun _ =>
        (selection_set_keeps bound).andThen fun _ => .done trivial

/-! ### Documents -/

theorem described_def_yields {bound : Nat} {keyword : String} {rule : Parser Definition}
    (found : describedDef? bound keyword = some rule) : Yields rule Definition.WellNamed := by
  unfold describedDef? at found
  split_ifs at found
  all_goals obtain rfl := Option.some.inj found
  · exact schema_def_yields bound
  · exact advance_keeps.andThen fun _ =>
      (type_after_yields bound keyword).bind fun _ named => .done named
  · exact directive_def_yields bound
  · exact operation_def_yields bound
  · exact fragment_def_yields bound

theorem definition_yields (bound : Nat) : Yields (definition bound) Definition.WellNamed := by
  refine peek_keeps.andThen fun first => .ite ?_ ?_
  · exact (selection_set_keeps bound).andThen fun _ => .done trivial
  refine .either peek_next_keeps kept fun keyword => .past (.fail _ _) ?_
  split
  · split
    case h_1 rule found => exact description_keeps.andThen fun _ => described_def_yields found
    case h_2 => exact .past (.fail _ _) (.ite (extension_yields bound) (unexpected_yields keyword))
  · exact unexpected_yields keyword

theorem definitions_yields (width bound : Nat) :
    Yields (definitions width bound) fun doc => ∀ d ∈ doc, d.WellNamed := by
  induction bound with
  | zero => exact nil_yields
  | succ bound ih =>
      refine (definition_yields width).bind fun d named => peek_keeps.andThen fun _ => .ite ?_ ?_
      · exact .done (List.forall_mem_singleton.2 named)
      · exact ih.bind fun _ others => .done (List.forall_mem_cons.2 ⟨named, others⟩)

end Parser

/-- Types and fields have names of the schema language, wherever a text that can be read defines or
extends them. -/
theorem parsed_well_named {text : Wide} {doc : Document} (parsed : Document.parse text = .ok doc) :
    ∀ d ∈ doc, d.WellNamed := by
  obtain ⟨tokens, readable, parsed⟩ := except_bind_ok parsed
  obtain ⟨⟨found, rest⟩, ran, parsed⟩ := except_bind_ok parsed
  obtain rfl := Except.ok.inj parsed
  have proper : tokens.Proper := by
    unfold readableTokens at readable
    split at readable
    · cases readable
    · obtain rfl := Except.ok.inj readable
      exact scan_tokens_proper _ _ _
  exact (Parser.definitions_yields _ _ tokens found rest proper ran).2

end StorefrontSurvey.Schema
