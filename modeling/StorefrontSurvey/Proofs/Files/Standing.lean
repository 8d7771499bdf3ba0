import Mathlib.Tactic.SplitIfs
import StorefrontSurvey.Proofs.Files.Walks
/-!
Places reached through directories alone, with no link on the way. What a path to such a place
shows is decided by its last name, and whatever a walk reaches is such a place.
-/
namespace StorefrontSurvey.Files

open StorefrontSurvey.Path (Chars Segment Location Absolute IsName Names SlashFree)

/-- Each name stands in a directory, and none of them is a link. -/
inductive Standing (files : Files) : Location → Prop
  | top : Standing files []
  | into {place : Location} {name : Segment} (standing : Standing files place)
      (isName : IsName name) (entry : files.turn place name = .go (place ++ [name])) :
      Standing files (place ++ [name])

variable {files : Files} {place : Location}

theorem node_listed {node : Node} (below : place ≠ []) (stands : files.node? place = some node) :
    (place, node) ∈ files.nodes := by
  cases place with
  | nil => exact absurd rfl below
  | cons first rest =>
      obtain ⟨before, after, split, _⟩ := List.lookup_eq_some_iff.1 stands
      simp [split]

theorem standing_last {before : Location} {name : Segment}
    (standing : Standing files (before ++ [name])) :
    Standing files before ∧ IsName name ∧ files.turn before name = .go (before ++ [name]) := by
  generalize whole : before ++ [name] = place at standing
  cases standing with
  | top => simp at whole
  | into above isName entry =>
      obtain ⟨rfl, same⟩ := List.append_inj' whole rfl
      obtain rfl := List.singleton_inj.1 same
      exact ⟨above, isName, entry⟩

theorem standing_names (standing : Standing files place) : Names place := by
  induction standing with
  | top => simp [Names]
  | @into place name _ isName _ ih =>
      intro other member
      rcases List.mem_append.1 member with earlier | last
      · exact ih other earlier
      · rw [List.mem_singleton.1 last]
        exact isName

theorem standing_up (standing : Standing files place) : Standing files place.dropLast := by
  cases standing with
  | top => exact .top
  | into standing _ _ => simpa using standing

/-- What a name does at a place: the name may be no name at all, or lead to an entry. -/
theorem turn_name (place : Location) (name : Segment) (isName : IsName name) :
    files.turn place name =
      if !files.isDirectory place then .stop .notDirectory
      else if longestName < byteLength name then .stop .nameTooLong
      else match files.node? (place ++ [name]) with
        | none => .stop .missing
        | some (.link target) => .through target
        | some _ => .go (place ++ [name]) := by
  have named : ¬(name = [] ∨ name = Path.dot) := not_or.2 ⟨isName.ne_nil, isName.ne_dot⟩
  rewrite [turn, if_neg named, if_neg isName.ne_dotDot]
  rfl

theorem name_turn_go {name : Segment} {next : Location} (isName : IsName name)
    (found : files.turn place name = .go next) :
    next = place ++ [name] ∧ ∃ node, files.node? (place ++ [name]) = some node ∧
      ∀ target, node ≠ .link target := by
  rw [turn_name place name isName] at found
  split_ifs at found
  cases stands : files.node? (place ++ [name]) with
  | none => simp [stands] at found
  | some node => cases node <;> simp_all

theorem name_turn_through {name : Segment} {target : Chars} (isName : IsName name)
    (found : files.turn place name = .through target) :
    files.node? (place ++ [name]) = some (.link target) := by
  rw [turn_name place name isName] at found
  split_ifs at found
  cases stands : files.node? (place ++ [name]) with
  | none => simp [stands] at found
  | some node => cases node <;> simp_all

theorem turn_skip {name : Segment} (skipped : name = [] ∨ name = Path.dot) :
    files.turn place name =
      if !files.isDirectory place then .stop .notDirectory else .go place := by
  simp only [turn, if_pos skipped]

theorem turn_up :
    files.turn place Path.dotDot =
      if !files.isDirectory place then .stop .notDirectory else .go place.dropLast := by
  have named : ¬(Path.dotDot = [] ∨ Path.dotDot = Path.dot) := by decide
  simp only [turn, if_neg named, if_true]

theorem standing_node (standing : Standing files place) :
    ∃ node, files.node? place = some node ∧ ∀ target, node ≠ .link target := by
  cases standing with
  | top => exact ⟨.directory none, rfl, by simp⟩
  | into _ isName entry => exact (name_turn_go isName entry).2

theorem standing_go {name : Segment} {next : Location} (standing : Standing files place)
    (free : '/' ∉ name) (found : files.turn place name = .go next) : Standing files next := by
  rcases Path.segment_cases name free with skipped | rfl | isName
  · rw [turn_skip skipped] at found
    split_ifs at found
    exact Turn.go.inj found ▸ standing
  · rw [turn_up] at found
    split_ifs at found
    exact Turn.go.inj found ▸ standing_up standing
  · obtain ⟨rfl, _⟩ := name_turn_go isName found
    exact .into standing isName found

theorem start_standing (standing : Standing files place) (target : Chars) :
    Standing files (startOf place target).1 := by
  unfold startOf
  by_cases absolute : target.head? = some '/'
  · simpa [absolute] using Standing.top
  · simpa [absolute] using standing

theorem start_slash_free (place : Location) (target : Chars) :
    SlashFree (startOf place target).2 := Path.split_slash_free target

theorem slash_free_append {left right : List Segment} (leftFree : SlashFree left)
    (rightFree : SlashFree right) : SlashFree (left ++ right) :=
  List.forall_mem_append.2 ⟨leftFree, rightFree⟩

theorem walk_standing (links : Nat) (names : List Segment) (last : Location)
    (standing : Standing files place) (free : SlashFree names)
    (walked : files.walk true links place names = .ok last) : Standing files last := by
  induction links, place, names using walk_induction with
  | nil links place =>
      rw [walk_nil] at walked
      exact Except.ok.inj walked ▸ standing
  | cons links place name rest ih deeper =>
      obtain ⟨nameFree, restFree⟩ := Path.slash_free_cons free
      rw [walk_cons] at walked
      cases found : files.turn place name with
      | stop cause => simp [found] at walked
      | go next =>
          exact ih next (standing_go standing nameFree found) restFree
            (by simpa [found] using walked)
      | through target =>
          cases links with
          | zero => simp [found, enter] at walked
          | succ links =>
              exact deeper links _ _ (Nat.lt_succ_self links) (start_standing standing target)
                (slash_free_append (start_slash_free place target) restFree)
                (by simpa [found, enter] using walked)

theorem walk_from_top (standing : Standing files place) (followLast : Bool) (links : Nat)
    (rest : List Segment) :
    files.walk followLast links [] (place ++ rest) = files.walk followLast links place rest := by
  induction standing generalizing rest with
  | top => rfl
  | @into place name _ _ entry ih => rw [List.append_assoc, ih, List.singleton_append,
      walk_cons, entry]

/-! ### Asking for a path -/

/-- What bars a path from being asked for at all. -/
def barred? (path : Absolute) : Option Fault :=
  if path.chars.contains '\x00' then some .nullCharacter
  else if longestPath < byteLength path.chars then some (.system .nameTooLong path.text)
  else none

theorem null_in_name {path : Absolute} (bar : barred? path = some .nullCharacter) :
    ∃ name ∈ path.location, '\x00' ∈ name := by
  have written : path.chars.contains '\x00' = true := by
    unfold barred? at bar
    split at bar
    · assumption
    · split at bar <;> simp_all
  exact (Path.mem_chars path (by decide)).1 (by simpa using written)

theorem no_null {path : Absolute} (free : barred? path = none) :
    ∀ name ∈ path.location, '\x00' ∉ name := by
  intro name member null
  have written : '\x00' ∈ path.chars :=
    (Path.mem_chars path (by decide)).2 ⟨name, member, null⟩
  simp [barred?, written] at free

theorem locate_eq (files : Files) (followLast : Bool) (path : Absolute) :
    files.locate followLast path =
      match barred? path with
      | some fault => .error fault
      | none => match files.walk followLast mostLinks [] path.location with
        | .ok place => .ok place
        | .error cause => .error (.system cause path.text) := by
  unfold locate barred?
  by_cases null : path.chars.contains '\x00' = true
  · simp only [null, if_true]
  · by_cases long : longestPath < byteLength path.chars
    · simp only [null, long, if_true]
      rfl
    · simp only [null, long, if_false]
      rfl

theorem link_target_eq {name : Segment} (standing : Standing files place)
    (isName : IsName name) :
    files.linkTarget? ((place ++ [name] : Location) : Absolute) =
      match barred? ((place ++ [name] : Location) : Absolute) with
      | some fault => .error fault
      | none => match files.turn place name with
        | .stop cause =>
          .error (.system cause ((place ++ [name] : Location) : Absolute).text)
        | .go _ => .ok none
        | .through target => .ok (some target) := by
  rw [linkTarget?, locate_eq]
  cases bar : barred? ((place ++ [name] : Location) : Absolute) with
  | some fault => rfl
  | none =>
      rw [walk_from_top standing, walk_cons]
      cases found : files.turn place name with
      | stop cause => rfl
      | go next =>
          obtain ⟨rfl, node, stands, notLink⟩ := name_turn_go isName found
          simp only [walk_nil, bind, Except.bind, stands]
          cases node with
          | link target => exact absurd rfl (notLink target)
          | directory | file => rfl
      | through target =>
          have stands := name_turn_through isName found
          simp [bind, Except.bind, stands, pure, Except.pure]

/-- What is learned of an entry of a directory: it may be asked for, and the name leads to it, or
through it if it is a link. -/
theorem link_target_turn {name : Segment} {target? : Option Chars}
    (standing : Standing files place) (isName : IsName name)
    (asked : files.linkTarget? ((place ++ [name] : Location) : Absolute) = .ok target?) :
    barred? ((place ++ [name] : Location) : Absolute) = none ∧
      files.turn place name = target?.elim (.go (place ++ [name])) .through := by
  rw [link_target_eq standing isName] at asked
  cases bar : barred? ((place ++ [name] : Location) : Absolute) with
  | some fault => simp [bar] at asked
  | none =>
      cases found : files.turn place name with
      | stop cause => simp [bar, found] at asked
      | go next =>
          obtain ⟨rfl, _⟩ := name_turn_go isName found
          simp only [bar, found, Except.ok.injEq] at asked
          rw [← asked]
          exact ⟨rfl, rfl⟩
      | through target =>
          simp only [bar, found, Except.ok.injEq] at asked
          rw [← asked]
          exact ⟨rfl, rfl⟩

theorem status_ok_iff {path : Absolute} {node : Node} :
    files.status path = .ok node ↔
      ∃ place, files.locate true path = .ok place ∧ files.node? place = some node := by
  unfold status
  cases files.locate true path with
  | error fault => simp [bind, Except.bind]
  | ok place =>
      cases stands : files.node? place <;>
        simp [bind, Except.bind, stands, pure, Except.pure, throw, throwThe, MonadExceptOf.throw]

theorem status_eq (path : Absolute) (free : SlashFree path.location) :
    files.status path =
      match barred? path with
      | some fault => .error fault
      | none => match files.walk true mostLinks [] path.location with
        | .ok place => .ok ((files.node? place).getD (.directory none))
        | .error cause => .error (.system cause path.text) := by
  rw [status, locate_eq]
  cases bar : barred? path with
  | some fault => rfl
  | none =>
      cases walked : files.walk true mostLinks [] path.location with
      | error cause => rfl
      | ok last =>
          obtain ⟨node, stands, _⟩ := standing_node (walk_standing _ _ _ .top free walked)
          simp [bind, Except.bind, stands, pure, Except.pure]

end StorefrontSurvey.Files
