import Mathlib.Data.List.Pairwise
import Mathlib.Logic.Relation
import StorefrontSurvey.Wire.Answer
/-!
Layouts: which members the values of a type are written with, and how each of them is read. A layout
that describes a type says at once that its values are read back as they were written, and that a
field may stand under its plain name in place of the one that is written.
-/
namespace StorefrontSurvey.Wire

/-! ### Other names for fields -/

/-- Which members within a value are fields, and what is known of the values that stand in them. -/
inductive Shape where
  /-- Nothing within is a field. -/
  | free
  | items (each : Shape)
  | fields (list : List (Key × Shape))

/-- One field within a value, at whatever depth, is renamed from the name that is written to its
plain name. Neither name may be there a second time. -/
inductive Respells : Shape → Json → Json → Prop where
  | here {fields : List (Key × Shape)} {shape : Shape} (key : Key) (front back : List Json.Member)
      (value : Json) (field : (key, shape) ∈ fields)
      (alone : ∀ member ∈ front ++ back, member.1 ≠ key.name ∧ member.1 ≠ key.plain) :
      Respells (.fields fields) (.obj (front ++ (key.name, value) :: back))
        (.obj (front ++ (key.plain, value) :: back))
  | within {fields : List (Key × Shape)} {shape : Shape} {name : String} {value other : Json}
      (key : Key) (front back : List Json.Member) (field : (key, shape) ∈ fields)
      (named : name = key.name ∨ name = key.plain) (deeper : Respells shape value other) :
      Respells (.fields fields) (.obj (front ++ (name, value) :: back))
        (.obj (front ++ (name, other) :: back))
  | item {each : Shape} {value other : Json} (front back : List Json)
      (deeper : Respells each value other) :
      Respells (.items each) (.arr (front ++ value :: back)) (.arr (front ++ other :: back))

/-- Only lists and objects are respelled, and they stay what they are. -/
theorem respelled_solid {shape : Shape} {value other : Json} (step : Respells shape value other) :
    value ≠ .null ∧ other ≠ .null := by
  cases step with
  | here | within | item => exact ⟨nofun, nofun⟩

/-- Whatever is read in one way is read in another way too, as the same. -/
def Leads {α : Type} (reading other : Reading α) : Prop :=
  ∀ value, reading = .good value → other = .good value

section Leading

variable {α β : Type}

theorem Leads.refl (reading : Reading α) : Leads reading reading := fun _ good => good

theorem Leads.within {reading other : Reading α} (leads : Leads reading other) (step later : Step) :
    Leads (reading.within step) (other.within later) := by
  intro value good
  cases reading with
  | bad faults => cases good
  | good found =>
      rw [leads found rfl]
      exact good

theorem Leads.map {reading other : Reading α} (leads : Leads reading other) (f : α → β) :
    Leads (f <$> reading) (f <$> other) := by
  intro value good
  cases reading with
  | bad faults => cases good
  | good found =>
      rw [leads found rfl]
      exact good

theorem Leads.seq {f other : Reading (α → β)} {x y : Reading α} (functions : Leads f other)
    (arguments : Leads x y) : Leads (f <*> x) (other <*> y) := by
  intro value good
  cases f with
  | bad faults => cases x <;> cases good
  | good found =>
      cases x with
      | bad faults => cases good
      | good argument =>
          rw [functions found rfl, arguments argument rfl]
          exact good

end Leading

/-! ### Looking members up -/

variable {members others front back : List Json.Member} {key : Key} {name : String}
  {value other : Json} {shape : Shape} {fields : List (Key × Shape)}

theorem lookup_middle (front back : List Json.Member) (name wanted : String) (value : Json) :
    Json.lookup (front ++ (name, value) :: back) wanted =
      (Json.lookup front wanted).or
        (if name = wanted then some value else Json.lookup back wanted) := by
  induction front with
  | nil => rfl
  | cons member front ih =>
      obtain ⟨first, _⟩ := member
      by_cases same : first = wanted
      · simp [Json.lookup, same]
      · simpa [Json.lookup, same] using ih

theorem lookup_absent {wanted : String} (absent : ∀ member ∈ members, member.1 ≠ wanted) :
    Json.lookup members wanted = none := by
  induction members with
  | nil => rfl
  | cons member members ih =>
      rw [Json.lookup, if_neg (absent member List.mem_cons_self)]
      exact ih fun later among => absent later (List.mem_cons_of_mem _ among)

/-- Two keys have no name in common. -/
structure Key.Apart (key other : Key) : Prop where
  names : key.name ≠ other.name
  plain : key.plain ≠ other.plain
  across : key.name ≠ other.plain
  back : key.plain ≠ other.name

instance (key other : Key) : Decidable (key.Apart other) :=
  decidable_of_iff (key.name ≠ other.name ∧ key.plain ≠ other.plain ∧ key.name ≠ other.plain ∧
      key.plain ≠ other.name)
    ⟨fun ⟨names, plain, across, back⟩ => ⟨names, plain, across, back⟩,
      fun ⟨names, plain, across, back⟩ => ⟨names, plain, across, back⟩⟩

theorem Key.Apart.symm {key other : Key} (apart : key.Apart other) : other.Apart key :=
  ⟨apart.names.symm, apart.plain.symm, apart.back.symm, apart.across.symm⟩

/-- Keys of which no two have a name in common. -/
def Apart (keys : List Key) : Prop := keys.Pairwise Key.Apart

instance (keys : List Key) : Decidable (Apart keys) :=
  inferInstanceAs (Decidable (keys.Pairwise Key.Apart))

theorem apart_fields (apart : Apart (fields.map Prod.fst)) {field later : Key × Shape}
    (member : field ∈ fields) (among : later ∈ fields) : field = later ∨ field.1.Apart later.1 := by
  have : Std.Symm fun field later : Key × Shape => field.1.Apart later.1 :=
    ⟨fun _ _ => Key.Apart.symm⟩
  by_cases same : field = later
  · exact Or.inl same
  · exact Or.inr ((List.pairwise_map.1 apart).forall member among same)

/-- A key finds the same in two lists of members, but for respelled fields within what it finds. -/
inductive FindsAlike (key : Key) (shape : Shape) (members others : List Json.Member) : Prop where
  | missing (here : key.find? members = none) (there : key.find? others = none)
  | found (name later : String) (value other : Json)
      (here : key.find? members = some (name, value))
      (there : key.find? others = some (later, other))
      (same : value = other ∨ Respells shape value other)

theorem FindsAlike.of_eq (same : key.find? members = key.find? others) :
    FindsAlike key shape members others := by
  cases found : key.find? members with
  | none => exact .missing found (same.symm.trans found)
  | some member =>
      obtain ⟨name, value⟩ := member
      exact .found name name value value found (same.symm.trans found) (Or.inl rfl)

theorem find_eq (name : Json.lookup members key.name = Json.lookup others key.name)
    (plain : Json.lookup members key.plain = Json.lookup others key.plain) :
    key.find? members = key.find? others := by
  rw [Key.find?, Key.find?, name, plain]

/-- A renamed field is found by its key, and makes no difference to keys apart from it. -/
theorem finds_renamed {renamed : Key}
    (alone : ∀ member ∈ front ++ back, member.1 ≠ renamed.name ∧ member.1 ≠ renamed.plain)
    (related : key = renamed ∨ key.Apart renamed) :
    FindsAlike key shape (front ++ (renamed.name, value) :: back)
      (front ++ (renamed.plain, value) :: back) := by
  rcases related with rfl | apart
  · have nameFront : Json.lookup front key.name = none :=
      lookup_absent fun member among => (alone member (List.mem_append_left _ among)).1
    have nameBack : Json.lookup back key.name = none :=
      lookup_absent fun member among => (alone member (List.mem_append_right _ among)).1
    have plainFront : Json.lookup front key.plain = none :=
      lookup_absent fun member among => (alone member (List.mem_append_left _ among)).2
    by_cases same : key.plain = key.name
    · rw [same]
      exact .of_eq rfl
    · refine .found key.name key.plain value value ?_ ?_ (Or.inl rfl)
      · simp [Key.find?, lookup_middle, nameFront]
      · simp [Key.find?, lookup_middle, nameFront, nameBack, plainFront, same]
  · apply FindsAlike.of_eq
    apply find_eq
    · rw [lookup_middle, lookup_middle, if_neg apart.names.symm, if_neg apart.across.symm]
    · rw [lookup_middle, lookup_middle, if_neg apart.back.symm, if_neg apart.plain.symm]

theorem lookup_replaced (front back : List Json.Member) (name wanted : String)
    (value other : Json) :
    Json.lookup (front ++ (name, value) :: back) wanted =
        Json.lookup (front ++ (name, other) :: back) wanted ∨
      Json.lookup (front ++ (name, value) :: back) wanted = some value ∧
        Json.lookup (front ++ (name, other) :: back) wanted = some other := by
  rw [lookup_middle, lookup_middle]
  cases Json.lookup front wanted with
  | some found => exact Or.inl rfl
  | none =>
      by_cases same : name = wanted
      · exact Or.inr (by simp [same])
      · exact Or.inl (by simp [same])

/-- A field within which something is respelled is found by its key, and makes no difference to keys
apart from it. -/
theorem finds_replaced {replaced : Key} (front back : List Json.Member)
    (named : name = replaced.name ∨ name = replaced.plain)
    (related : key = replaced ∧ Respells shape value other ∨ key.Apart replaced) :
    FindsAlike key shape (front ++ (name, value) :: back) (front ++ (name, other) :: back) := by
  rcases related with ⟨rfl, deeper⟩ | apart
  · rcases lookup_replaced front back name key.name value other with same | ⟨first, second⟩
    · cases given : Json.lookup (front ++ (name, other) :: back) key.name with
      | some found =>
          rw [given] at same
          exact .of_eq (by simp only [Key.find?, same, given])
      | none =>
          rw [given] at same
          rcases lookup_replaced front back name key.plain value other with
            plain | ⟨first, second⟩
          · exact .of_eq (find_eq (same.trans given.symm) plain)
          · exact .found key.plain key.plain value other (by simp [Key.find?, same, first])
              (by simp [Key.find?, given, second]) (Or.inr deeper)
    · exact .found key.name key.name value other (by simp [Key.find?, first])
        (by simp [Key.find?, second]) (Or.inr deeper)
  · apply FindsAlike.of_eq
    have other_name : name ≠ key.name := by
      rcases named with rfl | rfl
      · exact apart.names.symm
      · exact apart.across.symm
    have other_plain : name ≠ key.plain := by
      rcases named with rfl | rfl
      · exact apart.back.symm
      · exact apart.plain.symm
    apply find_eq
    · rw [lookup_middle, lookup_middle, if_neg other_name, if_neg other_name]
    · rw [lookup_middle, lookup_middle, if_neg other_plain, if_neg other_plain]

/-- Every field of an object is found alike after one respelling in it. -/
theorem finds_respelled (apart : Apart (fields.map Prod.fst))
    (step : Respells (.fields fields) (.obj members) (.obj others)) {field : Key × Shape}
    (member : field ∈ fields) : FindsAlike field.1 field.2 members others := by
  cases step with
  | here key front back value renamed alone =>
      refine finds_renamed alone ?_
      rcases apart_fields apart member renamed with rfl | apart
      · exact Or.inl rfl
      · exact Or.inr apart
  | within key front back replaced named deeper =>
      refine finds_replaced front back named ?_
      rcases apart_fields apart member replaced with rfl | apart
      · exact Or.inl ⟨rfl, deeper⟩
      · exact Or.inr apart

/-! ### Forms -/

/-- Values of the type have a shape, of which any field may be respelled when they are read. -/
class Formed (α : Type) [Wire α] where
  shape : Shape
  respelled : ∀ {json other : Json}, Respells shape json other →
    Leads (read json : Reading α) (read other)

/-- All values of the type are read back as they were written. -/
class Faithful (α : Type) [Wire α] extends Formed α where
  reads_back : ∀ value : α, (read (write value) : Reading α) = .good value

variable {α β γ : Type}

theorem respelled_closure [Wire α] [Formed α] {json later : Json} {value : α}
    (steps : Relation.ReflTransGen (Respells (Formed.shape α)) json later)
    (good : (read json : Reading α) = .good value) : (read later : Reading α) = .good value := by
  induction steps with
  | refl => exact good
  | tail _ step ih => exact Formed.respelled step value ih

/-- A form within which nothing is a field. -/
@[reducible]
def Faithful.free [Wire α] (back : ∀ value : α, (read (write value) : Reading α) = .good value) :
    Faithful α where
  shape := .free
  respelled step := nomatch step
  reads_back := back

instance : Faithful Json := .free fun _ => rfl

instance : Faithful String := .free fun _ => rfl

theorem read_items_written [Wire α] [Faithful α] (items : List α) (n : Nat) :
    readItems n (items.map write) = .good items := by
  induction items generalizing n with
  | nil => rfl
  | cons item items ih =>
      rw [List.map_cons, readItems, Faithful.reads_back item, ih]
      rfl

theorem read_items_respelled [Wire α] [Formed α]
    (deeper : Respells (Formed.shape α) value other) (front back : List Json) (n : Nat) :
    Leads (readItems n (front ++ value :: back) : Reading (List α))
      (readItems n (front ++ other :: back)) := by
  induction front generalizing n with
  | nil => exact (((Formed.respelled deeper).within _ _).map _).seq (Leads.refl _)
  | cons item front ih => exact (Leads.refl _).seq (ih (n + 1))

instance [Wire α] [Faithful α] : Faithful (List α) where
  shape := .items (Formed.shape α)
  respelled step := by
    cases step with
    | item front back deeper => exact read_items_respelled deeper front back 0
  reads_back items := read_items_written items 0

/-! ### Parts of a layout -/

/-- A key finds a value under the name that is written, or nothing. -/
def Holds (members : List Json.Member) (key : Key) (json? : Option Json) : Prop :=
  key.find? members = json?.map fun json => (key.name, json)

/-- One member of the values of a type: how it is written and read, and what of a value it tells.
Only values that can be said are read back. -/
structure Part (α β : Type) (sayable : α → Prop) where
  key : Key
  shape : Shape
  put : α → Option Json
  get : List Json.Member → Reading β
  value : α → β
  back : ∀ {a members}, sayable a → Holds members key (put a) → get members = .good (value a)
  leads : ∀ {members others}, FindsAlike key shape members others → Leads (get members) (get others)

section Parts

variable {sayable : α → Prop} [Wire β]

theorem required_leads [Formed β] (alike : FindsAlike key (Formed.shape β) members others) :
    Leads (required members key : Reading β) (required others key) := by
  cases alike with
  | missing here there => rw [required, here, required, there]; exact Leads.refl _
  | found name later value other here there same =>
      rw [required, here, required, there]
      rcases same with rfl | deeper
      · exact (Leads.refl _).within _ _
      · exact (Formed.respelled deeper).within _ _

theorem with_default_leads [Formed β] (alike : FindsAlike key (Formed.shape β) members others)
    (default : β) : Leads (withDefault members key default) (withDefault others key default) := by
  cases alike with
  | missing here there => rw [withDefault, here, withDefault, there]; exact Leads.refl _
  | found name later value other here there same =>
      rw [withDefault, here, withDefault, there]
      rcases same with rfl | deeper
      · exact (Leads.refl _).within _ _
      · exact (Formed.respelled deeper).within _ _

theorem optional_found (found : key.find? members = some (name, value)) (solid : value ≠ .null) :
    optional members key = some <$> (read value : Reading β).within (.key name) := by
  rw [optional, found]
  cases value with
  | null => exact absurd rfl solid
  | _ => rfl

theorem optional_leads [Formed β] (alike : FindsAlike key (Formed.shape β) members others) :
    Leads (optional members key : Reading (Option β)) (optional others key) := by
  cases alike with
  | missing here there => rw [optional, here, optional, there]; exact Leads.refl _
  | found name later value other here there same =>
      rcases same with rfl | deeper
      · rw [optional, here, optional, there]
        cases value with
        | null => exact Leads.refl _
        | _ => exact ((Leads.refl _).within _ _).map _
      · obtain ⟨solid, still⟩ := respelled_solid deeper
        rw [optional_found here solid, optional_found there still]
        exact ((Formed.respelled deeper).within _ _).map _

theorem required_back {b : β} (good : (read (write b) : Reading β) = .good b)
    (holds : Holds members key (some (write b))) : required members key = .good b := by
  rw [required, holds]
  change Reading.within _ _ = _
  rw [good]
  rfl

theorem unless_null_solid (solid : value ≠ .null) : value.unlessNull = some value := by
  cases value with
  | null => exact absurd rfl solid
  | _ => rfl

/-- A member that is always there. -/
def Part.required [Faithful β] (key : Key) (value : α → β) : Part α β sayable where
  key
  shape := Formed.shape β
  put a := some (write (value a))
  get members := Wire.required members key
  value
  back _ holds := required_back (Faithful.reads_back _) holds
  leads := required_leads

/-- A member that is always written, and has a value of its own when it is not there. -/
def Part.withDefault [Faithful β] (key : Key) (value : α → β) (default : β) :
    Part α β sayable where
  key
  shape := Formed.shape β
  put a := some (write (value a))
  get members := Wire.withDefault members key default
  value
  back {a members} _ holds := by
    rw [Wire.withDefault, holds]
    change Reading.within _ _ = _
    rw [Faithful.reads_back]
    rfl
  leads alike := with_default_leads alike default

/-- A member that is there if there is a value, which is never null. -/
def Part.optional [Faithful β] (key : Key) (value : α → Option β)
    (solid : ∀ b : β, write b ≠ .null) : Part α (Option β) sayable where
  key
  shape := Formed.shape β
  put a := (value a).map write
  get members := Wire.optional members key
  value
  back {a members} _ holds := by
    cases given : value a with
    | none =>
        rw [given] at holds
        rw [Wire.optional, holds]
        rfl
    | some b =>
        rw [given] at holds
        rw [optional_found holds (solid b), Faithful.reads_back]
        rfl
  leads := optional_leads

/-- A member that has to be there, and is not written when it is null. -/
def Part.payload [Formed β] (key : Key) (value : α → β) :
    Part α β fun a => (read (write (value a)) : Reading β) = .good (value a) ∧
      write (value a) ≠ .null where
  key
  shape := Formed.shape β
  put a := (write (value a)).unlessNull
  get members := Wire.required members key
  value
  back {a members} said holds := by
    rw [unless_null_solid said.2] at holds
    exact required_back said.1 holds
  leads := required_leads

/-- A member that can only have one truth value. -/
def Part.flag (truth : Bool) (key : Key) : Part α Unit sayable where
  key
  shape := .free
  put _ := some (.bool truth)
  get members := readFlag truth members key
  value _ := ()
  back {a members} _ holds := by
    rw [readFlag, holds]
    exact if_pos rfl
  leads alike := by
    cases alike with
    | missing here there => rw [readFlag, here, readFlag, there]; exact Leads.refl _
    | found name later value other here there same =>
        obtain rfl := same.resolve_right nofun
        rw [readFlag, here, readFlag, there]
        by_cases told : truth? value = some truth
        · simp only [if_pos told]
          exact Leads.refl _
        · simp only [if_neg told]
          exact nofun

/-- A member that can only be one word. -/
def Part.mark (word : String) (key : Key) : Part α Unit sayable where
  key
  shape := .free
  put _ := some (.str word)
  get members := readMark word members key
  value _ := ()
  back {a members} _ holds := by
    have found : [(word, ())].lookup word = some () := List.lookup_cons_self
    rw [readMark, holds]
    change (readWord [(word, ())] (.str word)).within _ = _
    rw [readWord, found]
    rfl
  leads alike := by
    cases alike with
    | missing here there => rw [readMark, here, readMark, there]; exact Leads.refl _
    | found name later value other here there same =>
        obtain rfl := same.resolve_right nofun
        rw [readMark, here, readMark, there]
        exact (Leads.refl _).within _ _

/-- A member of no form that is not written when it is null. -/
def Part.silent (key : Key) (value : α → Json) : Part α Json sayable where
  key
  shape := .free
  put a := (value a).unlessNull
  get members := Wire.withDefault members key .null
  value
  back {a members} _ holds := by
    by_cases null : value a = .null
    · rw [null] at holds ⊢
      rw [Wire.withDefault, holds]
      rfl
    · rw [unless_null_solid null] at holds
      rw [Wire.withDefault, holds]
      rfl
  leads alike := with_default_leads alike Json.null

end Parts

/-! ### Layouts -/

/-- All members of the values of a type, in their order, and what they tell together. -/
structure Layout (α γ : Type) (sayable : α → Prop) where
  fields : List (Key × Shape)
  entries : α → List (Key × Option Json)
  reads : List Json.Member → Reading γ
  value : α → γ
  keys : ∀ a, (entries a).map Prod.fst = fields.map Prod.fst
  back : ∀ {a members}, sayable a → (∀ entry ∈ entries a, Holds members entry.1 entry.2) →
    reads members = .good (value a)
  leads : ∀ {members others},
    (∀ field ∈ fields, FindsAlike field.1 field.2 members others) →
      Leads (reads members) (reads others)

variable {sayable : α → Prop}

/-- One member, and what is made of it. -/
def Layout.of (make : β → γ) (part : Part α β sayable) : Layout α γ sayable where
  fields := [(part.key, part.shape)]
  entries a := [(part.key, part.put a)]
  reads members := make <$> part.get members
  value a := make (part.value a)
  keys _ := rfl
  back said holds := by
    rw [part.back said (holds _ (List.mem_singleton_self _))]
    rfl
  leads alike := (part.leads (alike _ (List.mem_singleton_self _))).map make

/-- One member more. -/
def Layout.and (layout : Layout α (β → γ) sayable) (part : Part α β sayable) :
    Layout α γ sayable where
  fields := layout.fields ++ [(part.key, part.shape)]
  entries a := layout.entries a ++ [(part.key, part.put a)]
  reads members := layout.reads members <*> part.get members
  value a := layout.value a (part.value a)
  keys a := by rw [List.map_append, List.map_append, layout.keys a]; rfl
  back said holds := by
    rw [layout.back said fun entry among => holds entry (List.mem_append_left _ among),
      part.back said (holds _ (List.mem_append_right _ (List.mem_singleton_self _)))]
    rfl
  leads alike :=
    (layout.leads fun field among => alike field (List.mem_append_left _ among)).seq
      (part.leads (alike _ (List.mem_append_right _ (List.mem_singleton_self _))))

/-- The members that are written of those that may be. -/
def given (entries : List (Key × Option Json)) : List Json.Member :=
  entries.filterMap fun entry => entry.2.map fun json => (entry.1.name, json)

theorem find_other {member : Json.Member} (name : member.1 ≠ key.name)
    (plain : member.1 ≠ key.plain) : key.find? (member :: members) = key.find? members := by
  obtain ⟨first, value⟩ := member
  rw [Key.find?, Key.find?, Json.lookup, if_neg name, Json.lookup, if_neg plain]

theorem find_none (absent : ∀ member ∈ members, member.1 ≠ key.name ∧ member.1 ≠ key.plain) :
    key.find? members = none := by
  rw [Key.find?, lookup_absent fun member among => (absent member among).1,
    lookup_absent fun member among => (absent member among).2]
  rfl

/-- What is written under keys apart from one another is found again by each of them. -/
theorem given_holds {entries : List (Key × Option Json)} (apart : Apart (entries.map Prod.fst)) :
    ∀ entry ∈ entries, Holds (given entries) entry.1 entry.2 := by
  induction entries with
  | nil => exact nofun
  | cons first rest ih =>
      obtain ⟨key, json?⟩ := first
      obtain ⟨fromRest, apartRest⟩ := List.pairwise_cons.1 apart
      have differs : ∀ entry ∈ rest, key.Apart entry.1 := fun entry later =>
        fromRest entry.1 (List.mem_map_of_mem later)
      intro entry among
      rcases List.mem_cons.1 among with rfl | later
      · cases json? with
        | some json => simp [Holds, given, Key.find?, Json.lookup]
        | none =>
            apply find_none
            intro member written
            change member ∈ given rest at written
            obtain ⟨other, listed, found⟩ := List.mem_filterMap.1 written
            obtain ⟨json, _, rfl⟩ := Option.map_eq_some_iff.1 found
            exact ⟨(differs other listed).names.symm, (differs other listed).back.symm⟩
      · cases json? with
        | none => exact ih apartRest entry later
        | some json =>
            change Key.find? entry.1 ((key.name, json) :: given rest) = _
            rw [find_other (differs entry later).names (differs entry later).across]
            exact ih apartRest entry later

/-- A layout says how the values of its type are written and read. -/
structure Layout.Describes [Wire α] (layout : Layout α α sayable) : Prop where
  writes : ∀ a, write a = .obj (given (layout.entries a))
  reads : ∀ members, (read (.obj members) : Reading α) = layout.reads members
  value : ∀ a, layout.value a = a
  apart : Apart (layout.fields.map Prod.fst)

namespace Layout.Describes

variable [Wire α] {layout : Layout α α sayable} (describes : layout.Describes)

include describes

theorem reads_back {a : α} (said : sayable a) : (read (write a) : Reading α) = .good a := by
  have apart : Apart ((layout.entries a).map Prod.fst) := by
    rw [layout.keys a]
    exact describes.apart
  rw [describes.writes, describes.reads, layout.back said (given_holds apart), describes.value]

theorem respelled {json other : Json} (step : Respells (.fields layout.fields) json other) :
    Leads (read json : Reading α) (read other) := by
  obtain ⟨members, others, rfl, rfl⟩ :
      ∃ members others, json = .obj members ∧ other = .obj others := by
    cases step with
    | here | within => exact ⟨_, _, rfl, rfl⟩
  rw [describes.reads, describes.reads]
  exact layout.leads fun field among => finds_respelled describes.apart step among

end Layout.Describes

@[reducible]
def Formed.ofLayout [Wire α] {layout : Layout α α sayable} (describes : layout.Describes) :
    Formed α where
  shape := .fields layout.fields
  respelled := describes.respelled

@[reducible]
def Faithful.ofLayout [Wire α] (layout : Layout α α fun _ => True)
    (describes : layout.Describes) : Faithful α where
  toFormed := .ofLayout describes
  reads_back _ := describes.reads_back trivial

end StorefrontSurvey.Wire
