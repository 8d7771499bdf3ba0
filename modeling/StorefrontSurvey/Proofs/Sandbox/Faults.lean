import StorefrontSurvey.Proofs.Files.Depth
import StorefrontSurvey.Proofs.Sandbox.BlindLinks
/-!
Targets that are neither handed back nor refused for leading out of the root. That comes of a fault
which strict resolution meets before anything is missing, or of a directory above something missing
that is too long to be asked for. It never comes of following a directory that is there.
-/
namespace StorefrontSurvey.Sandbox

open StorefrontSurvey.Path (Chars Segment Location Absolute IsName Names)
open StorefrontSurvey.Files (Firm barred? canonical_firm status_eq)

variable {files : Files} {root : Location} {target : String} {place : Absolute}

/-! ### Directories above a path -/

theorem above_prefix {depth : Nat} {above : Absolute} (member : above ∈ place.above depth) :
    above.location <+: place.location ∧ above.doubled = place.doubled := by
  induction depth generalizing place with
  | zero => cases member
  | succ depth ih =>
      have upward : place.parent.location <+: place.location := List.dropLast_prefix _
      rcases List.mem_cons.1 member with rfl | further
      · exact ⟨upward, rfl⟩
      · obtain ⟨before, same⟩ := ih further
        exact ⟨before.trans upward, same⟩

theorem parent_names (names : Names place.location) : Names place.parent.location :=
  fun name member => names name (List.mem_of_mem_dropLast member)

/-- What leads somewhere leads somewhere on the way, and every shorter path may be asked for. -/
theorem status_before {early location : Location} {doubled : Bool} {node : Files.Node}
    (names : Names location) (before : early <+: location)
    (asked : files.status ⟨location, doubled⟩ = .ok node) :
    ∃ other, files.status ⟨early, doubled⟩ = .ok other := by
  have earlyNames : Names early := fun name member => names name (before.subset member)
  rw [status_eq _ (Path.names_slash_free names)] at asked
  rw [status_eq _ (Path.names_slash_free earlyNames)]
  cases bar : barred? (⟨location, doubled⟩ : Absolute) with
  | some fault => simp [bar] at asked
  | none =>
      cases walked : files.walk true Files.mostLinks [] location with
      | error cause => simp [bar, walked] at asked
      | ok last =>
          obtain ⟨rest, rfl⟩ := before
          obtain ⟨middle, part⟩ := Files.walk_part files _ [] early rest last walked
          rw [Files.not_barred_before (List.prefix_append early rest) bar]
          dsimp only
          rw [part]
          exact ⟨_, rfl⟩

theorem somewhere_error {path : Absolute} {fault : Files.Fault}
    (leads : files.leadsSomewhere path = .error fault) :
    ∃ text, fault = .system .nameTooLong text ∧
      files.status path = .error (.system .nameTooLong text) := by
  unfold Files.leadsSomewhere at leads
  split at leads
  · cases leads
  · rename_i text failed
    cases leads
    exact ⟨text, rfl, failed⟩
  · cases leads

/-- A directory that is there, on the way to something missing, is resolved leniently. -/
theorem somewhere_resolved {rest : Location} {path : String} (names : Names place.location)
    (leads : files.leadsSomewhere place = .ok true)
    (missing : files.followFrom .strict [] (place.location ++ rest) =
      .error (.system .missing path)) :
    ∃ found, files.resolveLenient [] place.chars = .ok found := by
  obtain ⟨node, asked⟩ := status_of_somewhere leads
  obtain ⟨canonical, strict, _⟩ := ancestor_resolved names asked missing
  have alone : Names (place.location ++ []) := by simpa using names
  have onward := Files.resolve_lenient_from [] place.doubled alone strict
  rw [List.append_nil, List.append_nil,
    Files.resolve_lenient_of_firm [] (canonical_firm names strict)] at onward
  exact ⟨canonical, onward⟩

/-- A directory among those above a path is too long to be asked for. -/
def TooLongAbove (files : Files) (above : List Absolute) (text : String) : Prop :=
  ∃ ancestor ∈ above, files.status ancestor = .error (.system .nameTooLong text)

theorem too_long_passed {ancestor : Absolute} (above : List Absolute) (text : String)
    (nowhere : files.leadsSomewhere ancestor = .ok false) :
    TooLongAbove files (ancestor :: above) text ↔ TooLongAbove files above text := by
  obtain ⟨fault, failed, notLong⟩ := status_of_nowhere nowhere
  have skipped : fault ≠ .system .nameTooLong text := notLong text
  simp [TooLongAbove, failed, skipped]

/-- Nothing above a directory that is there is too long. -/
theorem none_too_long (depth : Nat) (names : Names place.location) (text : String)
    (somewhere : files.leadsSomewhere place = .ok true) :
    ¬TooLongAbove files (place :: place.above depth) text := by
  rintro ⟨ancestor, member, long⟩
  obtain ⟨node, asked⟩ := status_of_somewhere somewhere
  have shown : ∃ other, files.status ancestor = .ok other := by
    rcases List.mem_cons.1 member with rfl | further
    · exact ⟨node, asked⟩
    · obtain ⟨before, same⟩ := above_prefix further
      have written : ancestor = ⟨ancestor.location, place.doubled⟩ := by rw [← same]
      rw [written]
      exact status_before names before asked
  obtain ⟨other, shown⟩ := shown
  rw [long] at shown
  cases shown

/-- What comes of looking for the nearest directory that is there: it lies in the root or outside,
and none above the path is too long, or one is. -/
inductive AncestorCheck (files : Files) (above : List Absolute) : Except Fault Unit → Prop
  | found (none : ∀ text, ¬TooLongAbove files above text) : AncestorCheck files above (.ok ())
  | escaped {escape : Escape} (none : ∀ text, ¬TooLongAbove files above text) :
      AncestorCheck files above (.error (.escape escape))
  | tooLong {text : String} (long : TooLongAbove files above text) :
      AncestorCheck files above (.error (.ofFile (.system .nameTooLong text)))

theorem ancestor_check_passed {ancestor : Absolute} {above : List Absolute}
    {outcome : Except Fault Unit} (nowhere : files.leadsSomewhere ancestor = .ok false)
    (check : AncestorCheck files above outcome) :
    AncestorCheck files (ancestor :: above) outcome := by
  have passed := fun text => too_long_passed above text nowhere
  cases check with
  | found none => exact .found fun text long => none text ((passed text).1 long)
  | escaped none => exact .escaped fun text long => none text ((passed text).1 long)
  | tooLong long => exact .tooLong ((passed _).2 long)

theorem check_ancestors_step (depth : Nat) (rest : Location) {path : String}
    (names : Names place.location)
    (missing : files.followFrom .strict [] (place.location ++ rest) =
      .error (.system .missing path)) :
    AncestorCheck files (place.above depth)
      (checkAncestors files root target (place.above depth)) := by
  induction depth generalizing place rest with
  | zero =>
      refine .found ?_
      rintro text ⟨ancestor, member, _⟩
      cases member
  | succ depth ih =>
      have parentNames := parent_names names
      obtain ⟨last, whole⟩ : place.parent.location <+: place.location := List.dropLast_prefix _
      rw [← whole, List.append_assoc] at missing
      rw [Absolute.above, checkAncestors]
      cases leads : files.leadsSomewhere place.parent with
      | error fault =>
          obtain ⟨text, rfl, asked⟩ := somewhere_error leads
          exact .tooLong ⟨_, List.mem_cons_self, asked⟩
      | ok somewhere =>
          cases somewhere with
          | false => exact ancestor_check_passed leads (ih _ parentNames missing)
          | true =>
              have none := fun text => none_too_long depth parentNames text leads
              obtain ⟨found, resolved⟩ := somewhere_resolved parentNames leads missing
              rw [resolved]
              dsimp only
              split
              · exact .found none
              · exact .escaped none

theorem check_parents_step (root : Location) (target : String) {path : String}
    (names : Names place.location)
    (missing : files.followFrom .strict [] place.location = .error (.system .missing path)) :
    AncestorCheck files place.parents (checkAncestors files root target place.parents) :=
  check_ancestors_step _ [] names (by simpa using missing)

/-! ### Targets -/

/-- What keeps a place from being handed back, other than an escape. -/
inductive Snag (files : Files) (place : Absolute) : Fault → Prop
  | onWay {fault : Files.Fault}
      (failed : files.followFrom .strict [] place.location = .error fault)
      (other : ∀ path, fault ≠ .system .missing path) :
      Snag files place (.below place (.of fault))
  | tooLong {path text : String}
      (missing : files.followFrom .strict [] place.location = .error (.system .missing path))
      (parentMissing : files.followFrom .strict [] place.location.dropLast =
        .error (.system .missing path))
      (long : TooLongAbove files place.parents text) :
      Snag files place (.ofFile (.system .nameTooLong text))

/-- A target does not climb out of the root as it is written. -/
def StaysIn (root : Location) (target : String) : Prop :=
  Path.climbsOut (String.ofList
    (Path.wayFrom root (Path.fromDirectory root target.toList).location)) = false

/-- A target stays in the root as it is written, and its place has a snag. -/
def Snagged (files : Files) (root : Location) (target : String) : Prop :=
  StaysIn root target ∧ ∃ fault, Snag files (Path.fromDirectory root target.toList) fault

/-- A fault on the way to the parent is met on the way to the place. -/
theorem parent_fault {fault : Files.Fault} {path : String} (names : Names place.location)
    (missing : files.followFrom .strict [] place.location = .error (.system .missing path))
    (parentFault : files.followFrom .strict [] place.location.dropLast = .error fault) :
    fault = .system .missing path := by
  obtain ⟨last, whole⟩ : place.location.dropLast <+: place.location := List.dropLast_prefix _
  have free : Path.SlashFree place.location.dropLast := Path.names_slash_free (parent_names names)
  have onward := Files.follow_append_error .strict _ [] _ last fault free parentFault
  rw [whole] at onward
  exact Except.error.inj (onward.symm.trans missing)

theorem resolve_missing_up {path : String} (names : Names place.location)
    (parentMissing : files.followFrom .strict [] place.location.dropLast =
      .error (.system .missing path)) :
    resolveMissing files root place target =
      (checkAncestors files root target place.parents).map fun _ => place := by
  unfold resolveMissing
  rw [Files.resolve_strict_chars [] place.parent (parent_names names), Absolute.parent,
    parentMissing]
  rfl

theorem resolve_missing_fault {fault : Fault} {path : String} (names : Names place.location)
    (missing : files.followFrom .strict [] place.location = .error (.system .missing path))
    (failed : resolveMissing files root place target = .error fault) :
    (∃ escape, fault = .escape escape) ∨ Snag files place fault := by
  rcases resolve_strict_cases files place.parent (parent_names names) with
    ⟨parent, _, strict⟩ | ⟨parentFault, followed, _⟩
  · rw [resolveMissing, strict] at failed
    dsimp only at failed
    split at failed
    · cases failed
    · exact Or.inl ⟨_, (Except.error.inj failed).symm⟩
  · obtain rfl := parent_fault names missing followed
    rw [resolve_missing_up names followed] at failed
    have check := check_parents_step root target names missing
    generalize checkAncestors files root target place.parents = outcome at check failed
    cases check with
    | found => cases failed
    | @escaped escape =>
        cases failed
        exact Or.inl ⟨escape, rfl⟩
    | tooLong long =>
        cases failed
        exact Or.inr (.tooLong missing followed long)

/-- A target that is not handed back leads out of the root or has a snag. -/
theorem resolve_in_fault {fault : Fault} (failed : resolveIn files root target = .error fault) :
    (∃ escape, fault = .escape escape) ∨
      (StaysIn root target ∧ Snag files (Path.fromDirectory root target.toList) fault) := by
  have names := Path.from_directory_names root target.toList
  unfold resolveIn at failed
  dsimp only at failed
  split at failed
  · exact Or.inl ⟨_, (Except.error.inj failed).symm⟩
  · rename_i inside
    have stays : StaysIn root target := Bool.eq_false_iff.2 inside
    rcases resolve_strict_cases files _ names with
      ⟨found, followed, strict⟩ | ⟨other, followed, strict⟩
    · simp only [strict] at failed
      split at failed
      · cases failed
      · exact Or.inl ⟨_, (Except.error.inj failed).symm⟩
    · simp only [strict] at failed
      split at failed
      · rename_i same
        cases same
      · rename_i path same
        obtain rfl := unresolved_missing (Except.error.inj same)
        exact (resolve_missing_fault names followed failed).imp_right fun snag => ⟨stays, snag⟩
      · rename_i unresolved notMissing same
        obtain rfl := Except.error.inj same
        cases failed
        refine Or.inr ⟨stays, .onWay followed ?_⟩
        rintro path rfl
        exact notMissing path rfl

theorem of_file_not_escape (fault : Files.Fault) (escape : Escape) :
    Fault.ofFile fault ≠ .escape escape := by
  cases fault <;> simp [Fault.ofFile, Fault.escape]

theorem below_not_escape (path : Absolute) (unresolved : Files.Unresolved) (escape : Escape) :
    Fault.below path unresolved ≠ .escape escape := by
  cases unresolved with
  | blocked fault => exact of_file_not_escape fault escape
  | loop text => simp [Fault.below, Fault.escape]

theorem resolve_in_missing {path : String} (stays : StaysIn root target)
    (missing : files.followFrom .strict [] (Path.fromDirectory root target.toList).location =
      .error (.system .missing path)) :
    resolveIn files root target =
      resolveMissing files root (Path.fromDirectory root target.toList) target := by
  have strict : files.resolveStrict [] (Path.fromDirectory root target.toList).chars = _ :=
    Files.resolve_strict_chars [] _ (Path.from_directory_names root target.toList)
  rw [missing] at strict
  have inside : Path.climbsOut (String.ofList
      (Path.wayFrom root (Path.fromDirectory root target.toList).location)) = false := stays
  simp [resolveIn, inside, strict, Files.Unresolved.of]

theorem resolve_in_on_way {fault : Files.Fault} (stays : StaysIn root target)
    (failed : files.followFrom .strict [] (Path.fromDirectory root target.toList).location =
      .error fault)
    (other : ∀ path, fault ≠ .system .missing path) :
    resolveIn files root target =
      .error (.below (Path.fromDirectory root target.toList) (.of fault)) := by
  have strict : files.resolveStrict [] (Path.fromDirectory root target.toList).chars = _ :=
    Files.resolve_strict_chars [] _ (Path.from_directory_names root target.toList)
  rw [failed] at strict
  have inside : Path.climbsOut (String.ofList
      (Path.wayFrom root (Path.fromDirectory root target.toList).location)) = false := stays
  have present : ∀ path, Files.Unresolved.of fault ≠ .blocked (.system .missing path) :=
    fun path same => other path (unresolved_missing same)
  simp [resolveIn, inside, strict]

/-- A target that has a snag is not handed back, and it is not refused for leading out either. -/
theorem resolve_in_snagged (snagged : Snagged files root target) :
    ∃ fault, resolveIn files root target = .error fault ∧ ∀ escape, fault ≠ .escape escape := by
  have names := Path.from_directory_names root target.toList
  obtain ⟨stays, fault, snag⟩ := snagged
  cases snag with
  | onWay failed other =>
      exact ⟨_, resolve_in_on_way stays failed other, below_not_escape _ _⟩
  | @tooLong path text missing parentMissing long =>
      rw [resolve_in_missing stays missing, resolve_missing_up names parentMissing]
      have check := check_parents_step root target names missing
      generalize checkAncestors files root target
        (Path.fromDirectory root target.toList).parents = outcome at check
      cases check with
      | found none => exact absurd long (none text)
      | escaped none => exact absurd long (none text)
      | tooLong => exact ⟨_, rfl, of_file_not_escape _⟩

theorem resolve_in_snagged_iff :
    (∃ fault, resolveIn files root target = .error fault ∧ ∀ escape, fault ≠ .escape escape) ↔
      Snagged files root target := by
  constructor
  · rintro ⟨fault, failed, other⟩
    rcases resolve_in_fault failed with ⟨escape, rfl⟩ | ⟨stays, snag⟩
    · exact absurd rfl (other escape)
    · exact ⟨stays, fault, snag⟩
  · exact resolve_in_snagged

end StorefrontSurvey.Sandbox
