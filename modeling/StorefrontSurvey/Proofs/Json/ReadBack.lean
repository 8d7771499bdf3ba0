import Mathlib.Data.List.TakeWhile
import Mathlib.Tactic.SplitIfs
import StorefrontSurvey.Json.Printer
import StorefrontSurvey.Json.Reader
/-!
Printed JSON is read back as it was. Every character of a text is escaped to something that reads as
that character alone, so a text ends at its own closing quote; lists and objects follow by their
items and members, read in the order in which they are written. Numbers are left out: their written
form ends only where something else begins.
-/
namespace StorefrontSurvey.Json

open Text (Point Wide)

/-! ### Values that are read back -/

mutual

/-- A value as it is read. -/
def raw : Json → Raw
  | .null => .null
  | .bool b => .bool b
  | .int n => .int n
  | .decimal literal => .decimal literal
  | .str s => .str (Wide.of s)
  | .arr items => .arr (rawItems items)
  | .obj members => .obj (rawMembers members)

def rawItems : List Json → List Raw
  | [] => []
  | item :: rest => raw item :: rawItems rest

def rawMembers : List Member → List Raw.Member
  | [] => []
  | (name, value) :: rest => (Wide.of name, raw value) :: rawMembers rest

end

theorem wide_of_injective {first second : String} (same : Wide.of first = Wide.of second) :
    first = second := by
  have plain := congrArg Wide.plain? same
  rw [Wide.plain_of, Wide.plain_of] at plain
  exact Option.some.inj plain

mutual

/-- Different values stay different when they are read. -/
theorem raw_injective : ∀ {first second : Json}, raw first = raw second → first = second
  | .null, second, same => by cases second <;> simp [raw] at same ⊢
  | .bool b, second, same => by cases second <;> simp_all [raw]
  | .int n, second, same => by cases second <;> simp_all [raw]
  | .decimal literal, second, same => by cases second <;> simp_all [raw]
  | .str s, second, same => by
      cases second <;> simp [raw] at same ⊢
      exact wide_of_injective same
  | .arr items, second, same => by
      cases second <;> simp [raw] at same ⊢
      exact raw_items_injective same
  | .obj members, second, same => by
      cases second <;> simp [raw] at same ⊢
      exact raw_members_injective same

theorem raw_items_injective : ∀ {first second : List Json},
    rawItems first = rawItems second → first = second
  | [], [], _ => rfl
  | [], _ :: _, same => by simp [rawItems] at same
  | _ :: _, [], same => by simp [rawItems] at same
  | item :: items, other :: others, same => by
      simp only [rawItems, List.cons.injEq] at same
      rw [raw_injective same.1, raw_items_injective same.2]

theorem raw_members_injective : ∀ {first second : List Member},
    rawMembers first = rawMembers second → first = second
  | [], [], _ => rfl
  | [], _ :: _, same => by simp [rawMembers] at same
  | _ :: _, [], same => by simp [rawMembers] at same
  | (name, value) :: members, (otherName, other) :: others, same => by
      simp only [rawMembers, List.cons.injEq, Prod.mk.injEq] at same
      rw [wide_of_injective same.1.1, raw_injective same.1.2, raw_members_injective same.2]

end

/-- A value without numbers, with no more than so many levels of lists and objects, and with
different names for the members of each object. -/
inductive Legible : Nat → Json → Prop
  | null (levels : Nat) : Legible levels .null
  | bool (levels : Nat) (b : Bool) : Legible levels (.bool b)
  | str (levels : Nat) (s : String) : Legible levels (.str s)
  | arr {levels : Nat} {items : List Json} (each : ∀ item ∈ items, Legible levels item) :
      Legible (levels + 1) (.arr items)
  | obj {levels : Nat} {members : List Member} (distinct : (members.map Prod.fst).Nodup)
      (each : ∀ member ∈ members, Legible levels member.2) : Legible (levels + 1) (.obj members)

theorem Legible.more {levels most : Nat} {json : Json} (legible : Legible levels json)
    (within : levels ≤ most) : Legible most json := by
  induction legible generalizing most with
  | null => exact .null most
  | bool _ b => exact .bool most b
  | str _ s => exact .str most s
  | arr _ ih =>
      obtain ⟨inner, rfl⟩ : ∃ inner, most = inner + 1 := ⟨most - 1, by omega⟩
      exact .arr fun item member => ih item member (by omega)
  | obj distinct _ ih =>
      obtain ⟨inner, rfl⟩ : ∃ inner, most = inner + 1 := ⟨most - 1, by omega⟩
      exact .obj distinct fun member within => ih member within (by omega)

/-! ### Readers -/

/-- A reader takes a text from the front of any longer one, and gives a value for it. -/
def Takes {α : Type} (read : Cursor → Read α) (front : List Char) (value : α) : Prop :=
  ∀ position rest, read ⟨position, front ++ rest⟩ = .ok (value, ⟨position + front.length, rest⟩)

theorem move_one (position : Nat) (c : Char) (rest : List Char) :
    (⟨position, c :: rest⟩ : Cursor).move 1 = ⟨position + 1, rest⟩ := rfl

theorem skip_blanks {blanks : List Char} (blank : ∀ c ∈ blanks, Cursor.isBlank c = true) {c : Char}
    (solid : Cursor.isBlank c = false) (position : Nat) (rest : List Char) :
    (⟨position, blanks ++ c :: rest⟩ : Cursor).skipBlank =
      ⟨position + blanks.length, c :: rest⟩ := by
  have front : (blanks ++ c :: rest).takeWhile Cursor.isBlank = blanks := by
    rw [List.takeWhile_append_of_pos blank, List.takeWhile_cons_of_neg (by simp [solid]),
      List.append_nil]
  simp [Cursor.skipBlank, Cursor.move, front]

theorem skip_none {c : Char} (solid : Cursor.isBlank c = false) (position : Nat)
    (rest : List Char) :
    (⟨position, c :: rest⟩ : Cursor).skipBlank = ⟨position, c :: rest⟩ :=
  skip_blanks (List.forall_mem_nil _) solid position rest

theorem new_line_blank (depth : Nat) : ∀ c ∈ newLine depth, Cursor.isBlank c = true := by
  intro c member
  rcases List.mem_cons.1 member with rfl | space
  · rfl
  · rw [List.eq_of_mem_replicate space]
    rfl

/-! ### Texts -/

theorem four_hex_small {n : Nat} (small : n < 0x20) (rest : List Char) :
    fourHex? ('0' :: '0' :: (smallHex n ++ rest)) = some n := by
  have each : ∀ m < 0x20, fourHex? ('0' :: '0' :: smallHex m) = some m := by decide
  have same : fourHex? ('0' :: '0' :: (smallHex n ++ rest)) =
      fourHex? ('0' :: '0' :: smallHex n) := rfl
  rw [same, each n small]

theorem of_number_small {c : Char} (small : c.toNat < 0x20) : Point.ofNumber c.toNat = .char c := by
  have whole : (Text.isHigh c.toNat || Text.isLow c.toNat) = false := by
    simp [Text.isHigh, Text.isLow]
    omega
  rw [Point.ofNumber, whole, if_neg Bool.false_ne_true, Char.ofNat_toNat]

theorem read_code_point_small {c : Char} (small : c.toNat < 0x20) (position : Nat)
    {rest : List Char} (present : rest ≠ []) :
    readCodePoint ⟨position, '\\' :: 'u' :: '0' :: '0' :: (smallHex c.toNat ++ rest)⟩ =
      .ok (.char c, ⟨position + 6, rest⟩) := by
  have long : ¬('0' :: '0' :: (smallHex c.toNat ++ rest)).length ≤ 4 := by
    have some := List.length_pos_iff.2 present
    simp only [smallHex, List.length_cons, List.length_append, List.length_nil]
    omega
  have whole : Text.isHigh c.toNat = false := by
    simp [Text.isHigh]
    omega
  have after : (⟨position + 2, '0' :: '0' :: (smallHex c.toNat ++ rest)⟩ : Cursor).move 4 =
      ⟨position + 6, rest⟩ := rfl
  have digits : (⟨position, '\\' :: 'u' :: '0' :: '0' :: (smallHex c.toNat ++ rest)⟩ :
      Cursor).move 2 = ⟨position + 2, '0' :: '0' :: (smallHex c.toNat ++ rest)⟩ := rfl
  rw [readCodePoint]
  simp only [digits, if_neg long, four_hex_small small, whole, after, of_number_small small,
    Bool.false_eq_true, if_false]

theorem read_plain (start fuel : Nat) (read : Wide) {c : Char} (quote : c ≠ '"') (slash : c ≠ '\\')
    (printed : ¬c.toNat < 0x20) (position : Nat) (rest : List Char) :
    readString start (fuel + 1) read ⟨position, c :: rest⟩ =
      readString start fuel (.char c :: read) ⟨position + 1, rest⟩ := by
  have above : ¬c.toNat ≤ 0x1F := by omega
  rw [readString]
  simp only
  split
  case h_6 =>
    rename_i same
    cases same
    rw [if_neg above, move_one]
  all_goals simp_all

/-- What a character is escaped to is read as that character, whatever comes after it. -/
theorem read_escaped (start fuel : Nat) (read : Wide) (c : Char) (position : Nat)
    {rest : List Char} (present : rest ≠ []) :
    readString start (fuel + 1) read ⟨position, escaped c ++ rest⟩ =
      readString start fuel (.char c :: read) ⟨position + (escaped c).length, rest⟩ := by
  unfold escaped
  split_ifs with quote slash line ret tab feed back control
  · rw [quote]
    rfl
  · rw [slash]
    rfl
  · rw [line]
    rfl
  · rw [ret]
    rfl
  · rw [tab]
    rfl
  · rw [feed]
    rfl
  · rw [back]
    rfl
  · have point := read_code_point_small control position present
    rw [readString]
    simp only [List.cons_append, point]
    rfl
  · exact read_plain start fuel read quote slash control position rest

theorem read_closed (start : Nat) (chars : List Char) {fuel : Nat} (enough : chars.length < fuel)
    (read : Wide) (position : Nat) (rest : List Char) :
    readString start fuel read ⟨position, chars.flatMap escaped ++ '"' :: rest⟩ =
      .ok (read.reverse ++ Wide.ofChars chars,
        ⟨position + (chars.flatMap escaped).length + 1, rest⟩) := by
  induction chars generalizing fuel read position with
  | nil =>
      obtain ⟨fuel, rfl⟩ : ∃ less, fuel = less + 1 := ⟨fuel - 1, by simp at enough; omega⟩
      simp [readString, move_one, Wide.ofChars]
  | cons c chars ih =>
      rw [List.length_cons] at enough
      obtain ⟨fuel, rfl⟩ : ∃ less, fuel = less + 1 := ⟨fuel - 1, by omega⟩
      have present : chars.flatMap escaped ++ '"' :: rest ≠ [] := by simp
      rw [List.flatMap_cons, List.append_assoc, read_escaped start fuel read c position present,
        ih (by omega)]
      simp [Wide.ofChars, Nat.add_assoc]

theorem flat_map_escaped_length (chars : List Char) :
    chars.length ≤ (chars.flatMap escaped).length := by
  induction chars with
  | nil => exact Nat.le_refl 0
  | cons c chars ih =>
      have one : 1 ≤ (escaped c).length := by
        unfold escaped
        repeat' split
        all_goals exact Nat.succ_le_succ (Nat.zero_le _)
      rw [List.flatMap_cons, List.length_append, List.length_cons]
      omega

/-- Texts and names are read with enough fuel wherever they stand. -/
theorem read_written_text (s : String) (position : Nat) (rest : List Char) :
    readString position (writtenText s ++ rest).length []
        ((⟨position, writtenText s ++ rest⟩ : Cursor).move 1) =
      .ok (Wide.of s, ⟨position + (writtenText s).length, rest⟩) := by
  have shape : writtenText s ++ rest = '"' :: (s.toList.flatMap escaped ++ '"' :: rest) := by
    simp [writtenText]
  have length : (writtenText s).length = (s.toList.flatMap escaped).length + 2 := by
    simp [writtenText]
  have enough := flat_map_escaped_length s.toList
  have fuel : s.toList.length < ('"' :: (s.toList.flatMap escaped ++ '"' :: rest)).length := by
    rw [List.length_cons, List.length_append]
    omega
  have reach : position + 1 + (s.toList.flatMap escaped).length + 1 =
      position + ((s.toList.flatMap escaped).length + 2) := by omega
  rw [shape, move_one, read_closed position s.toList fuel, length, reach, List.reverse_nil,
    List.nil_append, Wide.of]

/-! ### Lists -/

/-- What values other than numbers start with. -/
def openings : List Char := ['"', '[', '\x7b', 'n', 't', 'f']

theorem opening_visible {first : Char} (opening : first ∈ openings) :
    Cursor.isBlank first = false ∧ first ≠ ']' ∧ first ≠ '\uFEFF' := by
  rw [openings] at opening
  simp only [List.mem_cons, List.not_mem_nil, or_false] at opening
  rcases opening with rfl | rfl | rfl | rfl | rfl | rfl
  all_goals decide

/-- A value is written with an opening in front, and what is written is read as the value within so
many levels. -/
structure ReadBack (levels depth : Nat) (json : Json) : Prop where
  front : ∃ first ∈ openings, ∃ more, written depth json = first :: more
  taken : ∀ fuel, (written depth json).length < fuel →
    Takes (readValue fuel levels) (written depth json) (raw json)

/-- The items of a list up to its end, which stands on a line of its own. -/
def itemsText (depth outer : Nat) (item : Json) (items : List Json) : List Char :=
  written depth item ++ (writtenItems depth items ++ (newLine outer ++ [']']))

theorem skip_line {front more : List Char} {first : Char} (starts : front = first :: more)
    (solid : Cursor.isBlank first = false) (depth position : Nat) :
    (⟨position, newLine depth ++ front⟩ : Cursor).skipBlank =
      ⟨position + (newLine depth).length, front⟩ := by
  rw [starts]
  exact skip_blanks (new_line_blank depth) solid position more

section Steps

variable {levels depth fuel : Nat} {json : Json}

theorem read_last_item (back : ReadBack levels depth json)
    (enough : (written depth json).length < fuel) (outer position : Nat) (rest : List Char) :
    readItems (fuel + 1) levels
        ⟨position, written depth json ++ (newLine outer ++ ']' :: rest)⟩ =
      .ok ([raw json], ⟨position + (written depth json).length + (newLine outer).length + 1,
        rest⟩) := by
  have closing := skip_line (rfl : ']' :: rest = ']' :: rest) rfl outer
  rw [readItems, back.taken fuel enough]
  simp only [closing, Cursor.head?, List.head?_cons, move_one]

theorem read_item_before {next : Json} (back : ReadBack levels depth json)
    (enough : (written depth json).length < fuel) (following : ReadBack levels depth next)
    (position : Nat) (rest : List Char) :
    readItems (fuel + 1) levels
        ⟨position, written depth json ++ ',' :: (newLine depth ++ (written depth next ++ rest))⟩ =
      (readItems fuel levels ⟨position + (written depth json).length + 1 + (newLine depth).length,
        written depth next ++ rest⟩).map fun (items, c) => (raw json :: items, c) := by
  obtain ⟨start, opening, more, starts⟩ := following.front
  have front : written depth next ++ rest = start :: (more ++ rest) := by
    rw [starts, List.cons_append]
  have line := skip_line front (opening_visible opening).1 depth
  have comma : Cursor.isBlank ',' = false := rfl
  rw [readItems, back.taken fuel enough]
  simp only [skip_none comma, Cursor.head?, List.head?_cons, move_one, line]

end Steps

theorem items_taken {levels depth : Nat} (outer : Nat) (items : List Json) {item : Json}
    (each : ∀ one ∈ item :: items, ReadBack levels depth one) {fuel : Nat}
    (enough : (itemsText depth outer item items).length < fuel) :
    Takes (readItems fuel levels) (itemsText depth outer item items)
      (rawItems (item :: items)) := by
  have here := each item List.mem_cons_self
  induction items generalizing item fuel with
  | nil =>
      have length : (itemsText depth outer item []).length =
          (written depth item).length + (newLine outer).length + 1 := by
        simp [itemsText, writtenItems, Nat.add_assoc]
      obtain ⟨fuel, rfl⟩ : ∃ less, fuel = less + 1 := ⟨fuel - 1, by omega⟩
      intro position rest
      have shape : itemsText depth outer item [] ++ rest =
          written depth item ++ (newLine outer ++ ']' :: rest) := by
        simp [itemsText, writtenItems]
      rw [shape, read_last_item here (by omega), length]
      simp only [rawItems, Nat.add_assoc]
  | cons next items ih =>
      have others : ∀ one ∈ next :: items, ReadBack levels depth one := fun one member =>
        each one (List.mem_cons_of_mem item member)
      have length : (itemsText depth outer item (next :: items)).length =
          (written depth item).length + 1 + (newLine depth).length +
            (itemsText depth outer next items).length := by
        simp [itemsText, writtenItems]
        omega
      obtain ⟨fuel, rfl⟩ : ∃ less, fuel = less + 1 := ⟨fuel - 1, by omega⟩
      intro position rest
      have shape : itemsText depth outer item (next :: items) ++ rest =
          written depth item ++ ',' :: (newLine depth ++ (written depth next ++
            (writtenItems depth items ++ (newLine outer ++ ']' :: rest)))) := by
        simp [itemsText, writtenItems]
      have after : written depth next ++
          (writtenItems depth items ++ (newLine outer ++ ']' :: rest)) =
          itemsText depth outer next items ++ rest := by
        simp [itemsText]
      have found := others next List.mem_cons_self
      rw [shape, read_item_before here (by omega) found, after, ih others (by omega) found, length]
      simp only [Except.map, rawItems, Nat.add_assoc]

/-! ### Objects -/

def memberText (depth : Nat) (member : Member) : List Char :=
  writtenText member.1 ++ ':' :: ' ' :: written depth member.2

def membersText (depth outer : Nat) (member : Member) (members : List Member) : List Char :=
  memberText depth member ++ (writtenMembers depth members ++ (newLine outer ++ ['\x7d']))

theorem set_member_new {members : List Raw.Member} {name : Wide}
    (fresh : name ∉ members.map Prod.fst) (value : Raw) :
    Raw.setMember members name value = members ++ [(name, value)] := by
  induction members with
  | nil => rfl
  | cons member members ih =>
      rw [List.map_cons, List.mem_cons, not_or] at fresh
      rw [Raw.setMember, if_neg (Ne.symm fresh.1), ih fresh.2, List.cons_append]

/-- How an object goes on after its last member so far. -/
def goOn (fuel levels : Nat) (read : List Raw.Member) (c : Cursor) : Read (List Raw.Member) :=
  match c.head? with
  | some '\x7d' => .ok (read, c.move 1)
  | some ',' => readMembers fuel levels read (c.move 1).skipBlank
  | _ => c.fault .commaWanted

section Steps

variable {levels depth fuel : Nat} {member : Member}

theorem read_member (back : ReadBack levels depth member.2)
    (enough : (written depth member.2).length < fuel) {read : List Raw.Member}
    (fresh : Wide.of member.1 ∉ read.map Prod.fst) (position : Nat) (rest : List Char) :
    readMembers (fuel + 1) levels read ⟨position, memberText depth member ++ rest⟩ =
      goOn fuel levels (read ++ [(Wide.of member.1, raw member.2)])
        (⟨position + (memberText depth member).length, rest⟩ : Cursor).skipBlank := by
  obtain ⟨first, opening, more, starts⟩ := back.front
  have quoted : memberText depth member ++ rest =
      '"' :: (member.1.toList.flatMap escaped ++ ['"'] ++
        ':' :: ' ' :: (written depth member.2 ++ rest)) := by
    simp [memberText, writtenText]
  have name := read_written_text member.1 position (':' :: ' ' :: (written depth member.2 ++ rest))
  rw [writtenText, List.cons_append, move_one, ← writtenText] at name
  have blank : ∀ c ∈ [' '], Cursor.isBlank c = true := List.forall_mem_singleton.2 rfl
  have space (place : Nat) : (⟨place, ' ' :: (written depth member.2 ++ rest)⟩ : Cursor).skipBlank =
      ⟨place + 1, written depth member.2 ++ rest⟩ := by
    rw [starts]
    exact skip_blanks blank (opening_visible opening).1 place (more ++ rest)
  have reach : position + (writtenText member.1).length + 1 + 1 + (written depth member.2).length =
      position + (memberText depth member).length := by
    simp [memberText]
    omega
  have value := back.taken fuel enough (position + (writtenText member.1).length + 1 + 1) rest
  have colon : Cursor.isBlank ':' = false := rfl
  rw [reach] at value
  rw [readMembers, quoted]
  simp only [name, skip_none colon, Cursor.head?, List.head?_cons, ne_eq, not_true_eq_false,
    if_false, move_one, space, value, set_member_new fresh]
  rfl

end Steps

theorem members_taken {levels depth : Nat} (outer : Nat) (members : List Member) {member : Member}
    (distinct : ((member :: members).map Prod.fst).Nodup)
    (each : ∀ one ∈ member :: members, ReadBack levels depth one.2) {read : List Raw.Member}
    (fresh : ∀ one ∈ member :: members, Wide.of one.1 ∉ read.map Prod.fst) {fuel : Nat}
    (enough : (membersText depth outer member members).length < fuel) :
    Takes (readMembers fuel levels read) (membersText depth outer member members)
      (read ++ rawMembers (member :: members)) := by
  have here := each member List.mem_cons_self
  have new := fresh member List.mem_cons_self
  induction members generalizing member read fuel with
  | nil =>
      have length : (membersText depth outer member []).length =
          (memberText depth member).length + (newLine outer).length + 1 := by
        simp [membersText, writtenMembers, Nat.add_assoc]
      obtain ⟨fuel, rfl⟩ : ∃ less, fuel = less + 1 := ⟨fuel - 1, by omega⟩
      intro position rest
      have shape : membersText depth outer member [] ++ rest =
          memberText depth member ++ (newLine outer ++ '\x7d' :: rest) := by
        simp [membersText, writtenMembers]
      have closing := skip_line (rfl : '\x7d' :: rest = '\x7d' :: rest) rfl outer
      have value : (written depth member.2).length < fuel := by
        simp [memberText] at length
        omega
      rw [shape, read_member here value new, length]
      simp only [goOn, closing, Cursor.head?, List.head?_cons, move_one, rawMembers, Nat.add_assoc]
  | cons next members ih =>
      rw [List.map_cons, List.nodup_cons] at distinct
      have others : ∀ one ∈ next :: members, ReadBack levels depth one.2 := fun one within =>
        each one (List.mem_cons_of_mem member within)
      have newer : ∀ one ∈ next :: members,
          Wide.of one.1 ∉ (read ++ [(Wide.of member.1, raw member.2)]).map Prod.fst := by
        intro one within
        have other : Wide.of one.1 ≠ Wide.of member.1 := fun same =>
          distinct.1 (wide_of_injective same ▸ List.mem_map_of_mem within)
        simp [fresh one (List.mem_cons_of_mem member within), other]
      have length : (membersText depth outer member (next :: members)).length =
          (memberText depth member).length + 1 + (newLine depth).length +
            (membersText depth outer next members).length := by
        simp [membersText, memberText, writtenMembers]
        omega
      obtain ⟨fuel, rfl⟩ : ∃ less, fuel = less + 1 := ⟨fuel - 1, by omega⟩
      intro position rest
      have shape : membersText depth outer member (next :: members) ++ rest =
          memberText depth member ++ ',' :: (newLine depth ++
            (membersText depth outer next members ++ rest)) := by
        simp [membersText, memberText, writtenMembers]
      have starts : membersText depth outer next members ++ rest =
          '"' :: (membersText depth outer next members ++ rest).tail := by
        simp [membersText, memberText, writtenText]
      have line := skip_line starts rfl depth
      have comma : Cursor.isBlank ',' = false := rfl
      have value : (written depth member.2).length < fuel := by
        simp [memberText] at length
        omega
      have found := others next List.mem_cons_self
      have last := newer next List.mem_cons_self
      rw [shape, read_member here value new, length]
      simp only [goOn, skip_none comma, Cursor.head?, List.head?_cons, move_one, line]
      rw [ih distinct.2 others newer (by omega) found last]
      simp [rawMembers, Nat.add_assoc]

/-! ### Values -/

/-- Reading a value takes a step, and what is within it is read with the rest of the fuel. -/
theorem ReadBack.of_step {levels depth : Nat} {json : Json} {first : Char} {more : List Char}
    (opening : first ∈ openings) (starts : written depth json = first :: more)
    (step : ∀ fuel, more.length < fuel →
      Takes (readValue (fuel + 1) levels) (first :: more) (raw json)) :
    ReadBack levels depth json where
  front := ⟨first, opening, more, starts⟩
  taken fuel enough := by
    rw [starts, List.length_cons] at enough
    obtain ⟨less, rfl⟩ : ∃ less, fuel = less + 1 := ⟨fuel - 1, by omega⟩
    rw [starts]
    exact step less (by omega)

theorem text_read_back (levels depth : Nat) (s : String) : ReadBack levels depth (.str s) := by
  apply ReadBack.of_step (by decide) rfl
  intro fuel _ position rest
  have text := read_written_text s position rest
  rw [writtenText, List.cons_append] at text
  rw [List.cons_append, readValue]
  simp only [text, Except.map, raw]

theorem list_read_back {levels depth : Nat} {items : List Json}
    (each : ∀ item ∈ items, ReadBack levels (depth + 1) item) :
    ReadBack (levels + 1) depth (.arr items) := by
  cases items with
  | nil =>
      apply ReadBack.of_step (by decide) rfl
      intro fuel _ position rest
      rfl
  | cons item items =>
      have shape : written depth (.arr (item :: items)) =
          '[' :: (newLine (depth + 1) ++ itemsText (depth + 1) depth item items) := by
        simp [written, itemsText]
      apply ReadBack.of_step (by decide) shape
      intro fuel enough position rest
      rw [List.length_append] at enough
      obtain ⟨first, opening, more, starts⟩ := (each item List.mem_cons_self).front
      have opened : itemsText (depth + 1) depth item items ++ rest =
          first :: (more ++
            (writtenItems (depth + 1) items ++ (newLine depth ++ ']' :: rest))) := by
        simp [itemsText, starts]
      have line := skip_line opened (opening_visible opening).1 (depth + 1) (position + 1)
      have taken : Takes (readItems fuel levels) (itemsText (depth + 1) depth item items)
          (rawItems (item :: items)) := items_taken depth items each (by omega)
      have inside := taken (position + 1 + (newLine (depth + 1)).length) rest
      have present : (itemsText (depth + 1) depth item items ++ rest).head? ≠ some ']' := by
        rw [opened, List.head?_cons]
        exact fun same => (opening_visible opening).2.1 (Option.some.inj same)
      rw [List.cons_append, List.append_assoc, readValue]
      simp only [move_one, line, Cursor.head?, if_neg present, Nat.add_one_ne_zero, if_false,
        Nat.add_sub_cancel, inside, raw, List.length_cons, List.length_append]
      have reach : position + 1 + (newLine (depth + 1)).length +
          (itemsText (depth + 1) depth item items).length =
          position + ((newLine (depth + 1)).length +
            (itemsText (depth + 1) depth item items).length + 1) := by omega
      rw [reach]

theorem object_read_back {levels depth : Nat} {members : List Member}
    (distinct : (members.map Prod.fst).Nodup)
    (each : ∀ member ∈ members, ReadBack levels (depth + 1) member.2) :
    ReadBack (levels + 1) depth (.obj members) := by
  cases members with
  | nil =>
      apply ReadBack.of_step (by decide) rfl
      intro fuel _ position rest
      rfl
  | cons member members =>
      have shape : written depth (.obj (member :: members)) =
          '\x7b' :: (newLine (depth + 1) ++ membersText (depth + 1) depth member members) := by
        simp [written, membersText, memberText]
      apply ReadBack.of_step (by decide) shape
      intro fuel enough position rest
      rw [List.length_append] at enough
      have opened : membersText (depth + 1) depth member members ++ rest =
          '"' :: (membersText (depth + 1) depth member members ++ rest).tail := by
        simp [membersText, memberText, writtenText]
      have line := skip_line opened rfl (depth + 1) (position + 1)
      have taken : Takes (readMembers fuel levels []) (membersText (depth + 1) depth member members)
          (rawMembers (member :: members)) :=
        members_taken depth members distinct each (by simp) (by omega)
      have inside := taken (position + 1 + (newLine (depth + 1)).length) rest
      have present :
          (membersText (depth + 1) depth member members ++ rest).head? ≠ some '\x7d' := by
        rw [opened]
        simp
      rw [List.cons_append, List.append_assoc, readValue]
      simp only [move_one, line, Cursor.head?, if_neg present, Nat.add_one_ne_zero, if_false,
        Nat.add_sub_cancel, inside, raw, List.length_cons, List.length_append]
      have reach : position + 1 + (newLine (depth + 1)).length +
          (membersText (depth + 1) depth member members).length =
          position + ((newLine (depth + 1)).length +
            (membersText (depth + 1) depth member members).length + 1) := by omega
      rw [reach]

/-- Legible values are read back wherever they stand. -/
theorem ReadBack.of_legible {levels bound : Nat} {json : Json} (legible : Legible levels json)
    (within : levels ≤ bound) (depth : Nat) : ReadBack bound depth json := by
  induction legible generalizing bound depth with
  | null =>
      apply ReadBack.of_step (by decide) rfl
      intro fuel _ position rest
      rfl
  | bool _ b =>
      cases b with
      | true =>
          apply ReadBack.of_step (by decide) rfl
          intro fuel _ position rest
          rfl
      | false =>
          apply ReadBack.of_step (by decide) rfl
          intro fuel _ position rest
          rfl
  | str _ s => exact text_read_back bound depth s
  | arr _ ih =>
      obtain ⟨inner, rfl⟩ : ∃ inner, bound = inner + 1 := ⟨bound - 1, by omega⟩
      exact list_read_back fun item member => ih item member (by omega) (depth + 1)
  | obj distinct _ ih =>
      obtain ⟨inner, rfl⟩ : ∃ inner, bound = inner + 1 := ⟨bound - 1, by omega⟩
      exact object_read_back distinct fun member within =>
        ih member within (by omega) (depth + 1)

/-- A printed value of no more levels than are read is read as it was, with blanks after it or
without. -/
theorem parse_printed {json : Json} (legible : Legible mostLevels json) {blanks : List Char}
    (blank : ∀ c ∈ blanks, Cursor.isBlank c = true) :
    parse ((print json).toList ++ blanks) = .ok (raw json) := by
  have back := ReadBack.of_legible legible (Nat.le_refl mostLevels) 0
  obtain ⟨first, opening, more, starts⟩ := back.front
  have ⟨visible, _, unmarked⟩ := opening_visible opening
  have text : (print json).toList = written 0 json := String.toList_ofList
  have start : (⟨0, written 0 json ++ blanks⟩ : Cursor).skipBlank =
      ⟨0, written 0 json ++ blanks⟩ := by
    rw [starts]
    exact skip_none visible 0 (more ++ blanks)
  have head : (written 0 json ++ blanks).head? ≠ some '\uFEFF' := by
    rw [starts, List.cons_append, List.head?_cons]
    exact fun same => unmarked (Option.some.inj same)
  have enough : (written 0 json).length < 2 * (written 0 json ++ blanks).length + 2 := by
    rw [List.length_append]
    omega
  have value := back.taken _ enough 0 blanks
  have rest : (⟨0 + (written 0 json).length, blanks⟩ : Cursor).skipBlank.text = [] := by
    have all : blanks.takeWhile Cursor.isBlank = blanks := List.takeWhile_eq_self_iff.2 blank
    simp [Cursor.skipBlank, Cursor.move, all]
  rw [text, parse, if_neg head, start, value]
  simp only [rest, List.isEmpty_nil, if_true]

end StorefrontSurvey.Json
