import StorefrontSurvey.Proofs.Json.Openings
import StorefrontSurvey.Proofs.Schema.Loads
import StorefrontSurvey.Proofs.Schema.ParsedNames
/-!
The two formats of schemas. No text is one in both: an introspection result opens an object with a
member, which is more than any document in the schema language does. So it makes no difference which
of the two is tried first.
-/
namespace StorefrontSurvey.Schema

open StorefrontSurvey.Path (Location Absolute)
open Text (Point Wide)

/-! ### Tokens of nested texts -/

/-- Tokens that open a list, or braces in which no token or a string comes first. -/
inductive Tokens.Foreign : Tokens → Prop
  | list (position : Nat) (rest : Tokens) : Foreign (.more ⟨.punct .bracketL, position⟩ rest)
  | broken (position : Nat) (fault : SyntaxFault) :
      Foreign (.more ⟨.punct .braceL, position⟩ (.broken fault))
  | string (position : Nat) {token : Token} (named : Parser.isDescription token.lexeme = true)
      (rest : Tokens) : Foreign (.more ⟨.punct .braceL, position⟩ (.more token rest))

theorem scan_blanks {blanks : List Char} (blank : ∀ c ∈ blanks, Json.Cursor.isBlank c = true)
    (fuel position : Nat) (rest : Wide) :
    scanTokens (fuel + blanks.length) position (Wide.ofChars blanks ++ rest) =
      scanTokens fuel (position + blanks.length) rest := by
  induction blanks generalizing position with
  | nil => rfl
  | cons c blanks ih =>
      have passed : isBlank c = true ∨ isLineEnd c = true := by
        have among := blank c List.mem_cons_self
        simp only [Json.Cursor.isBlank, isBlank, isLineEnd, Bool.or_eq_true] at among ⊢
        tauto
      have more := ih (fun b member => blank b (List.mem_cons_of_mem _ member)) (position + 1)
      change scanTokens (fuel + blanks.length + 1) position
        (.char c :: (Wide.ofChars blanks ++ rest)) = _
      rw [scanTokens, if_pos passed, more, List.length_cons, Nat.add_right_comm, Nat.add_assoc]

/-- What opens with a quote is a string, if it is a token at all. -/
theorem quote_lexeme {position : Nat} {rest : Wide} {scanned : Scanned}
    (done : scanLexeme position (.char '"' :: rest) = .ok scanned) :
    Parser.isDescription scanned.lexeme = true := by
  rw [scanLexeme.eq_def] at done
  split at done
  case h_3 =>
    obtain ⟨value, same⟩ := block_lexeme done
    rw [same]
    rfl
  case h_4 =>
    obtain ⟨value, same⟩ := string_lexeme done
    rw [same]
    rfl
  all_goals grind

theorem quote_foreign (place fuel position : Nat) (rest : Wide) :
    Tokens.Foreign (.more ⟨.punct .braceL, place⟩
      (scanTokens (fuel + 1) position (.char '"' :: rest))) := by
  rw [scanTokens, if_neg (by decide), if_neg (by decide)]
  cases outcome : scanLexeme position (.char '"' :: rest) with
  | error fault => exact .broken _ _
  | ok scanned => exact .string _ (quote_lexeme outcome) _

theorem nests_foreign {text : List Char} (nests : Json.Nests text) (fuel position : Nat)
    (enough : text.length ≤ fuel) : (scanTokens fuel position (Wide.ofChars text)).Foreign := by
  obtain ⟨more, rfl⟩ := Nat.exists_eq_add_of_le' enough
  cases nests with
  | list rest => exact .list _ _
  | @object blanks blank rest =>
      have fuel : more + (('\x7b' :: (blanks ++ '"' :: rest)).length) =
          more + rest.length + 1 + blanks.length + 1 := by
        simp only [List.length_cons, List.length_append]
        omega
      have text : Wide.ofChars ('\x7b' :: (blanks ++ '"' :: rest)) =
          .char '\x7b' :: (Wide.ofChars blanks ++ .char '"' :: Wide.ofChars rest) := by
        simp [Wide.ofChars]
      rw [fuel, text]
      change Tokens.Foreign (.more ⟨.punct .braceL, position⟩
        (scanTokens (more + rest.length + 1 + blanks.length) (position + 1) _))
      rw [scan_blanks blank]
      exact quote_foreign _ _ _ _

theorem opens_foreign {text : List Char} (opens : Json.Opens text) :
    (tokensOf (Wide.ofChars text)).Foreign := by
  obtain ⟨blanks, rest, blank, rfl, nests⟩ := opens
  have split : Wide.ofChars (blanks ++ rest) = Wide.ofChars blanks ++ Wide.ofChars rest :=
    List.map_append
  have length : (Wide.ofChars (blanks ++ rest)).length + 1 = rest.length + 1 + blanks.length := by
    simp [Wide.ofChars]
    omega
  rw [tokensOf, length, split, scan_blanks blank]
  exact nests_foreign nests _ _ (Nat.le_succ _)

/-! ### Documents -/

theorem foreign_refused {tokens : Tokens} (foreign : tokens.Foreign) (bound : Nat) :
    ∃ fault, (Parser.definition bound).run tokens = .error fault := by
  cases foreign with
  | list position rest => exact ⟨_, rfl⟩
  | broken position fault => exact ⟨_, rfl⟩
  | @string position token named rest =>
      obtain ⟨lexeme, start⟩ := token
      cases lexeme with
      | string value => exact ⟨_, rfl⟩
      | block value => exact ⟨_, rfl⟩
      | eof | punct | name | int | float => cases named

theorem definitions_refused {width : Nat} {tokens : Tokens} {fault : SyntaxFault}
    (refused : (Parser.definition width).run tokens = .error fault) (bound : Nat) :
    (Parser.definitions width (bound + 1)).run tokens = .error fault := by
  change ((Parser.definition width).run tokens >>= _) = _
  rw [refused]
  rfl

theorem foreign_readable {text : Wide} (foreign : (tokensOf text).Foreign) :
    readableTokens text = .ok (tokensOf text) := by
  unfold readableTokens
  generalize tokensOf text = tokens at foreign
  cases foreign <;> rfl

theorem foreign_unparsed {text : Wide} (foreign : (tokensOf text).Foreign) :
    ∃ fault, Document.parse text = .error fault := by
  obtain ⟨fault, refused⟩ := foreign_refused foreign ((tokensOf text).length + 1)
  have all := definitions_refused refused (tokensOf text).length
  refine ⟨fault, ?_⟩
  rw [Document.parse, foreign_readable foreign]
  change ((Parser.definitions _ _).run (tokensOf text) >>= _) = _
  rw [all]
  rfl

/-! ### Both formats -/

/-- A text in the schema language opens nothing that could be an introspection result. -/
theorem definition_plain {text : List Char} {catalog : Catalog}
    (read : fromDefinition text = .ok catalog) : ¬Json.Opens text := by
  intro opens
  obtain ⟨fault, unparsed⟩ := foreign_unparsed (opens_foreign opens)
  simp only [fromDefinition, Catalog.ofText, unparsed] at read
  cases read

theorem bare_no_schema {j : Json.Raw} (bare : j.Bare) : hasSchema (unwrapped j) = false := by
  cases j with
  | obj members =>
      obtain rfl := bare members rfl
      rfl
  | null | bool | int | decimal | str | arr => rfl

/-- A text in the schema language is no introspection result, for a reason with which it is still
tried in the schema language. -/
theorem definition_passes {text : List Char} {catalog : Catalog}
    (read : fromDefinition text = .ok catalog) :
    ∃ fault, fromIntrospection text = .error fault ∧ fault.isRetried = true := by
  obtain ⟨passing, bare⟩ := Json.parse_flat (definition_plain read)
  unfold fromIntrospection
  cases outcome : Json.parse text with
  | error fault =>
      refine ⟨.json fault, rfl, ?_⟩
      rw [LoadFault.isRetried, passing fault outcome]
      rfl
  | ok j =>
      refine ⟨.noSchema, ?_, rfl⟩
      simp only [bare_no_schema (bare j outcome), Bool.false_eq_true, if_false]

theorem definition_fault_retried {text : List Char} {fault : LoadFault}
    (failed : fromDefinition text = .error fault) : fault.isRetried = true := by
  unfold fromDefinition at failed
  split at failed
  · cases failed
  · obtain rfl := Except.error.inj failed
    rfl

variable {format other : Format} {text : List Char} {catalog : Catalog}

/-- What can be read in the schema language is read so, whatever the suffix says. -/
theorem from_text_definition (read : fromDefinition text = .ok catalog) (format : Format) :
    fromText format text = .ok catalog := by
  obtain ⟨fault, refused, retried⟩ := definition_passes read
  cases format with
  | definition => exact read
  | introspectionFirst => simp only [fromText, refused, retried, read, if_true]
  | definitionFirst => simp only [fromText, read]

/-- What cannot is read as an introspection result where the suffix allows for that. -/
theorem from_text_introspection {fault : LoadFault} (failed : fromDefinition text = .error fault)
    (free : format ≠ .definition) : fromText format text = fromIntrospection text := by
  have retried := definition_fault_retried failed
  cases format with
  | definition => exact absurd rfl free
  | definitionFirst => simp only [fromText, failed, retried, if_true]
  | introspectionFirst =>
      simp only [fromText, failed, retried, if_true]
      cases fromIntrospection text with
      | ok => rfl
      | error fault => exact ite_self _

theorem from_text_same (text : List Char) (free : format ≠ .definition)
    (otherFree : other ≠ .definition) : fromText format text = fromText other text := by
  cases read : fromDefinition text with
  | ok catalog => rw [from_text_definition read, from_text_definition read]
  | error fault =>
      rw [from_text_introspection read free, from_text_introspection read otherFree]

theorem from_text_kept (read : fromText format text = .ok catalog) (free : other ≠ .definition) :
    fromText other text = .ok catalog := by
  cases format with
  | definition => exact from_text_definition read other
  | introspectionFirst | definitionFirst => exact (from_text_same text free (by decide)).trans read

/-! ### Files -/

theorem load_same (bytes : List UInt8) (free : format ≠ .definition)
    (otherFree : other ≠ .definition) : load format bytes = load other bytes := by
  unfold load
  split
  · rfl
  · rw [from_text_same _ free otherFree]

theorem load_kept {bytes : List UInt8} (read : load format bytes = .ok catalog)
    (free : other ≠ .definition) : load other bytes = .ok catalog := by
  unfold load at read ⊢
  split at read
  · cases read
  · split at read
    case h_1 found =>
      obtain rfl := Except.ok.inj read
      simp only [from_text_kept found free]
    case h_2 => cases read

/-- The suffixes of files that are read in the schema language alone. -/
def definitionSuffixes : List String := [".graphql", ".gql"]

theorem definition_iff_suffix {path : String} :
    Format.ofPath path = .definition ↔ Path.suffix path ∈ definitionSuffixes := by
  unfold Format.ofPath
  dsimp only
  split_ifs <;> simp_all [definitionSuffixes]

/-- A path leads to a file with some bytes, whose canonical path has a suffix. -/
def LeadsTo (files : Files) (directory : Location) (path : String) (bytes : List UInt8)
    (suffix : String) : Prop :=
  ∃ place modified, files.resolveLenient directory path.toList = .ok place ∧
    files.status (place : Absolute) = .ok (.file bytes modified) ∧
    Path.suffix (place : Absolute).text = suffix

/-- What is answered to a load that finds no copy. -/
def Loaded.first : Except Wide Catalog → Except (List Wire.Fault) Loaded
  | .ok catalog => .ok (.fresh catalog 0)
  | .error reason => Loaded.failing reason

variable {files others : Files} {directory otherDirectory : Location} {path otherPath : String}
  {bytes : List UInt8} {suffix otherSuffix : String}

theorem load_at_first (files : Files) (place : Location) :
    (Registry.empty.loadAt files place).1 = Loaded.first (built files place) := by
  have step := Registry.load_at_step .empty files place
  generalize Registry.empty.loadAt files place = outcome at step
  cases step with
  | kept _ held => cases held
  | fresh _ succeeded =>
      rw [succeeded]
      rfl
  | failed failure =>
      rw [failure, Loaded.first]

theorem LeadsTo.first_load (leads : LeadsTo files directory path bytes suffix) :
    ∃ format, (format = .definition ↔ suffix ∈ definitionSuffixes) ∧
      (Registry.empty.load files directory path).1 = Loaded.first (load format bytes) := by
  obtain ⟨place, modified, resolved, shown, rfl⟩ := leads
  refine ⟨_, definition_iff_suffix, ?_⟩
  rw [Registry.load_at resolved, load_at_first]
  simp only [built, shown]

theorem first_high {outcome : Except Wide Catalog} {loaded : Loaded}
    (answered : Loaded.first outcome = .ok loaded) (high : loaded.confidence = .high) :
    ∃ catalog, outcome = .ok catalog := by
  cases outcome with
  | ok catalog => exact ⟨catalog, rfl⟩
  | error reason =>
      obtain ⟨text, rfl⟩ := Registry.failing_low answered
      cases high

/-- No text is a schema in both formats. A new registry loads the same from two files that hold the
same, whatever their suffixes, as long as neither is one of the schema language; and what it loads
from a file with any suffix it loads from one without such a suffix too. -/
theorem formats_unambiguous :
    (∀ text definition introspection, fromDefinition text = .ok definition →
      fromIntrospection text ≠ .ok introspection) ∧
    ∀ {files others directory otherDirectory path otherPath bytes suffix otherSuffix},
      LeadsTo files directory path bytes suffix →
      LeadsTo others otherDirectory otherPath bytes otherSuffix →
      otherSuffix ∉ definitionSuffixes →
        (suffix ∉ definitionSuffixes →
          (Registry.empty.load files directory path).1 =
            (Registry.empty.load others otherDirectory otherPath).1) ∧
        ∀ loaded, (Registry.empty.load files directory path).1 = .ok loaded →
          loaded.confidence = .high →
            (Registry.empty.load others otherDirectory otherPath).1 = .ok loaded := by
  refine ⟨?_, ?_⟩
  · intro text definition introspection read accepted
    obtain ⟨fault, refused, _⟩ := definition_passes read
    rw [refused] at accepted
    cases accepted
  · intro files others directory otherDirectory path otherPath bytes suffix otherSuffix here there
      free
    obtain ⟨format, isDefinition, loads⟩ := here.first_load
    obtain ⟨other, otherIs, otherLoads⟩ := there.first_load
    rw [loads, otherLoads]
    have otherFree : other ≠ .definition := fun definition => free (otherIs.1 definition)
    refine ⟨fun plain => ?_, fun loaded answered high => ?_⟩
    · rw [load_same bytes (fun definition => plain (isDefinition.1 definition)) otherFree]
    · obtain ⟨catalog, read⟩ := first_high answered high
      rw [load_kept read otherFree, ← read, answered]

def fileNamed (name : String) (text : String) : Files :=
  ⟨[([name.toList], .file text.toUTF8.data.toList 0)]⟩

/-- A schema in the schema language is loaded from a file that is named as an introspection result,
and is the same as from one named for its language. -/
theorem misnamed_schema_loaded :
    let text := "\x7b user \x7d type Query \x7b user: String \x7d"
    let files := fileNamed "s.gql" text
    let others := fileNamed "s.json" text
    LeadsTo files [] "/s.gql" text.toUTF8.data.toList ".gql" ∧
      LeadsTo others [] "/s.json" text.toUTF8.data.toList ".json" ∧
      ".json" ∉ definitionSuffixes ∧
      ∃ loaded, (Registry.empty.load files [] "/s.gql").1 = .ok loaded ∧
        loaded.confidence = .high ∧ (Registry.empty.load others [] "/s.json").1 = .ok loaded := by
  intro text files others
  have here : LeadsTo files [] "/s.gql" text.toUTF8.data.toList ".gql" :=
    ⟨["s.gql".toList], 0, by decide +kernel, by decide +kernel, by decide +kernel⟩
  have there : LeadsTo others [] "/s.json" text.toUTF8.data.toList ".json" :=
    ⟨["s.json".toList], 0, by decide +kernel, by decide +kernel, by decide +kernel⟩
  have free : ".json" ∉ definitionSuffixes := by decide
  have trusted : (Registry.empty.load files [] "/s.gql").1.toOption.map Loaded.confidence =
      some .high := by decide +kernel
  refine ⟨here, there, free, ?_⟩
  cases loads : (Registry.empty.load files [] "/s.gql").1 with
  | error faults => simp [loads, Except.toOption] at trusted
  | ok loaded =>
      have high : loaded.confidence = .high := by simpa [loads, Except.toOption] using trusted
      exact ⟨loaded, rfl, high, (formats_unambiguous.2 here there free).2 loaded loads high⟩

end StorefrontSurvey.Schema
