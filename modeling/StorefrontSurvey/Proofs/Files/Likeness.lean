import StorefrontSurvey.Proofs.Files.Depth
/-!
Trees that are alike: the same directories, links and file names, whatever the files hold and
whenever they were changed. Where a path leads, and why it leads nowhere, is the same in both.
-/
namespace StorefrontSurvey.Files

open StorefrontSurvey.Path (Chars Segment Location Absolute IsName Names SlashFree)

/-- What the tree knows of a node. -/
inductive Shape where
  | directory
  | file
  | link (target : Chars)
  deriving DecidableEq

def Node.shape : Node → Shape
  | .directory _ => .directory
  | .file _ _ => .file
  | .link target => .link target

/-- The same kind of thing stands at each place, and links have the same targets. -/
def Alike (files others : Files) : Prop :=
  ∀ place, (files.node? place).map Node.shape = (others.node? place).map Node.shape

variable {files others : Files}

theorem alike_none {place : Location} (alike : Alike files others) :
    files.node? place = none ↔ others.node? place = none := by
  rw [← Option.map_eq_none_iff (f := Node.shape), alike place, Option.map_eq_none_iff]

theorem alike_some {place : Location} {node : Node} (alike : Alike files others)
    (stands : files.node? place = some node) :
    ∃ other, others.node? place = some other ∧ other.shape = node.shape := by
  have same := alike place
  rw [stands, Option.map_some] at same
  exact Option.map_eq_some_iff.1 same.symm

theorem is_directory_alike (alike : Alike files others) (place : Location) :
    files.isDirectory place = others.isDirectory place := by
  unfold isDirectory
  cases stands : files.node? place with
  | none => rw [(alike_none alike).1 stands]
  | some node =>
      obtain ⟨other, otherStands, shape⟩ := alike_some alike stands
      rw [otherStands]
      cases node <;> cases other <;> simp_all [Node.shape]

theorem turn_alike (alike : Alike files others) (place : Location) (name : Segment) :
    files.turn place name = others.turn place name := by
  unfold turn
  rw [is_directory_alike alike]
  cases stands : files.node? (place ++ [name]) with
  | none => rw [(alike_none alike).1 stands]
  | some node =>
      obtain ⟨other, otherStands, shape⟩ := alike_some alike stands
      rw [otherStands]
      cases node <;> cases other <;> simp_all [Node.shape]

theorem walk_alike (alike : Alike files others) (followLast : Bool) (links : Nat)
    (place : Location) (names : List Segment) :
    files.walk followLast links place names = others.walk followLast links place names := by
  induction links, place, names using walk_induction with
  | nil links place => rw [walk_nil, walk_nil]
  | cons links place name rest ih deeper =>
      rw [walk_cons, walk_cons, turn_alike alike]
      cases others.turn place name with
      | stop cause => rfl
      | go next => exact ih next
      | through target =>
          have entered : files.enter followLast links place target rest =
              others.enter followLast links place target rest := by
            cases links with
            | zero => rfl
            | succ links => exact deeper links _ _ (Nat.lt_succ_self links)
          simp only [entered]

theorem locate_alike (alike : Alike files others) (followLast : Bool) (path : Absolute) :
    files.locate followLast path = others.locate followLast path := by
  rw [locate_eq, locate_eq, walk_alike alike]

theorem link_target_alike (alike : Alike files others) (path : Absolute) :
    files.linkTarget? path = others.linkTarget? path := by
  unfold linkTarget?
  rw [locate_alike alike]
  cases others.locate false path with
  | error fault => rfl
  | ok place =>
      simp only [bind, Except.bind]
      cases stands : files.node? place with
      | none => rw [(alike_none alike).1 stands]
      | some node =>
          obtain ⟨other, otherStands, shape⟩ := alike_some alike stands
          rw [otherStands]
          cases node <;> cases other <;> simp_all [Node.shape]

theorem status_alike (alike : Alike files others) (path : Absolute) :
    (files.status path).map Node.shape = (others.status path).map Node.shape := by
  unfold status
  rw [locate_alike alike]
  cases others.locate true path with
  | error fault => rfl
  | ok place =>
      simp only [bind, Except.bind]
      cases stands : files.node? place with
      | none => rw [(alike_none alike).1 stands]
      | some node =>
          obtain ⟨other, otherStands, shape⟩ := alike_some alike stands
          rw [otherStands]
          simp [pure, Except.pure, Except.map, shape]

theorem status_error_alike {path : Absolute} {fault : Fault} (alike : Alike files others)
    (asked : files.status path = .error fault) : others.status path = .error fault := by
  have same := status_alike alike path
  rw [asked] at same
  cases other : others.status path with
  | error otherFault =>
      rw [other] at same
      cases same
      rfl
  | ok node =>
      rw [other] at same
      cases same

theorem status_ok_alike {path : Absolute} {node : Node} (alike : Alike files others)
    (asked : files.status path = .ok node) : ∃ other, others.status path = .ok other := by
  have same := status_alike alike path
  rw [asked] at same
  cases other : others.status path with
  | error fault =>
      rw [other] at same
      cases same
  | ok otherNode => exact ⟨otherNode, rfl⟩

theorem status_same {path : Absolute} {place : Location} (alike : Alike files others)
    (located : files.locate true path = .ok place)
    (same : files.node? place = others.node? place) :
    files.status path = others.status path := by
  unfold status
  rw [← locate_alike alike, located]
  simp only [bind, Except.bind, same]

theorem leads_somewhere_alike (alike : Alike files others) (path : Absolute) :
    files.leadsSomewhere path = others.leadsSomewhere path := by
  unfold leadsSomewhere
  cases asked : files.status path with
  | error fault => rw [status_error_alike alike asked]
  | ok node =>
      obtain ⟨other, otherAsked⟩ := status_ok_alike alike asked
      rw [otherAsked]

/-! ### Canonical locations -/

theorem target_for_alike (alike : Alike files others) (mode : Mode) (place : Location) :
    files.targetFor mode place = others.targetFor mode place := by
  unfold targetFor
  rw [link_target_alike alike]

theorem on_loop_alike (alike : Alike files others) (mode : Mode) (link : Location)
    (rest : List Segment) : files.onLoop mode link rest = others.onLoop mode link rest := by
  unfold onLoop
  cases asked : files.status (link : Absolute) with
  | error fault => rw [status_error_alike alike asked]
  | ok node =>
      obtain ⟨other, otherAsked⟩ := status_ok_alike alike asked
      rw [otherAsked]

theorem follow_alike (alike : Alike files others) (mode : Mode) (depth : Nat)
    (opened : List Location) (place : Location) (names : List Segment) (free : SlashFree names) :
    files.follow mode depth opened place names = others.follow mode depth opened place names := by
  induction depth, opened, place, names, free using follow_induction with
  | nil depth opened place => rw [follow_nil, follow_nil]
  | skip depth opened place name rest _ _ skipped ih =>
      rw [follow_skip _ _ _ _ _ _ _ skipped, follow_skip _ _ _ _ _ _ _ skipped]
      exact ih
  | up depth opened place rest _ _ ih =>
      rw [follow_up, follow_up]
      exact ih
  | entry depth opened place name rest _ _ isName ih deeper =>
      have entered (target : Chars) :
          files.followLink mode depth opened (place ++ [name]) target =
            others.followLink mode depth opened (place ++ [name]) target := by
        cases depth with
        | zero => exact on_loop_alike alike mode _ []
        | succ depth =>
            exact deeper depth _ _ _ (start_slash_free _ target) (Nat.lt_succ_self depth)
      have onward : files.resume mode depth opened rest = others.resume mode depth opened rest := by
        funext inner
        cases inner with
        | done last => exact ih last
        | caught last => rfl
      rw [follow_name _ _ _ _ _ _ _ isName, follow_name _ _ _ _ _ _ _ isName, followEntry,
        followEntry, target_for_alike alike]
      cases others.targetFor mode (place ++ [name]) with
      | error fault => rfl
      | ok target? =>
          cases target? with
          | none => exact ih _
          | some target => simp only [entered, on_loop_alike alike, onward]

theorem settled_alike {place : Location} (alike : Alike files others)
    (settled : Settled files place) : Settled others place where
  names := settled.names
  unlinked early before target := by
    rw [← link_target_alike alike]
    exact settled.unlinked early before target

/-- Names are followed alike, however many entries each of the two lists. -/
theorem follow_from_alike {place : Location} (alike : Alike files others) (mode : Mode)
    (names : List Segment) (settled : Settled files place) (free : SlashFree names) :
    files.followFrom mode place names = others.followFrom mode place names := by
  rw [follow_from_eq mode (files.nodes.length + others.nodes.length) names settled free
      (Nat.le_add_right _ _),
    follow_from_eq mode (files.nodes.length + others.nodes.length) names
      (settled_alike alike settled) free (Nat.le_add_left _ _)]
  exact follow_alike alike mode _ [] place names free

theorem resolve_strict_alike {directory : Location} (alike : Alike files others)
    (settled : Settled files directory) (path : Chars) :
    files.resolveStrict directory path = others.resolveStrict directory path := by
  unfold resolveStrict
  dsimp only
  rw [follow_from_alike alike .strict _ (start_settled settled path)
    (start_slash_free directory path)]

theorem landing_alike (alike : Alike files others) (place : Location) :
    files.landing place = others.landing place := by
  unfold landing
  cases asked : files.status (place : Absolute) with
  | error fault => rw [status_error_alike alike asked]
  | ok node =>
      obtain ⟨other, otherAsked⟩ := status_ok_alike alike asked
      rw [otherAsked]

theorem resolve_lenient_alike {directory : Location} (alike : Alike files others)
    (settled : Settled files directory) (path : Chars) :
    files.resolveLenient directory path = others.resolveLenient directory path := by
  have followed := follow_from_alike alike .lenient _ (start_settled settled path)
    (start_slash_free directory path)
  simp only [resolve_lenient_eq, followed, landing_alike alike]

end StorefrontSurvey.Files
