import Mathlib.Data.List.Infix
import StorefrontSurvey.Files.Canonical
import StorefrontSurvey.Proofs.Files.Standing
/-!
Canonical locations. A path that is resolved strictly ends at a place that stands and is no link,
and is resolved leniently to the same place. Where strict resolution finds something missing, no
walk leads anywhere either.
-/
namespace StorefrontSurvey.Files

open StorefrontSurvey.Path (Chars Segment Location Absolute IsName Names SlashFree)

/-- A place that stands, such that it and all on the way to it can be asked for. -/
structure Firm (files : Files) (place : Location) : Prop where
  standing : Standing files place
  askable : ∀ early, early <+: place → barred? (early : Absolute) = none

variable {files : Files} {place : Location}

theorem firm_top (files : Files) : Firm files [] where
  standing := .top
  askable early before := by
    rw [List.prefix_nil.1 before]
    decide

theorem firm_up (firm : Firm files place) : Firm files place.dropLast where
  standing := standing_up firm.standing
  askable early before := firm.askable early (before.trans (List.dropLast_prefix place))

theorem firm_into {name : Segment} (firm : Firm files place) (isName : IsName name)
    (entry : files.linkTarget? ((place ++ [name] : Location) : Absolute) = .ok none) :
    Firm files (place ++ [name]) := by
  obtain ⟨open_way, found⟩ := link_target_turn firm.standing isName entry
  refine ⟨.into firm.standing isName found, ?_⟩
  intro early before
  rcases List.prefix_concat_iff.1 before with whole | within
  · rw [whole, open_way]
  · exact firm.askable early within

theorem firm_last {before : Location} {name : Segment} (firm : Firm files (before ++ [name])) :
    Firm files before ∧ IsName name ∧
      files.linkTarget? ((before ++ [name] : Location) : Absolute) = .ok none := by
  obtain ⟨above, isName, entry⟩ := standing_last firm.standing
  refine ⟨by simpa using firm_up firm, isName, ?_⟩
  rw [link_target_eq above isName, firm.askable _ (List.prefix_refl _), entry]

theorem firm_before {early : Location} (firm : Firm files place) (before : early <+: place) :
    Firm files early := by
  obtain ⟨more, rfl⟩ := before
  induction more using List.reverseRecOn with
  | nil => simpa using firm
  | append_singleton more name ih =>
      rw [← List.append_assoc] at firm
      exact ih (firm_last firm).1

theorem firm_locate (firm : Firm files place) : files.locate true place = .ok place := by
  have walked := walk_from_top firm.standing true mostLinks []
  rw [List.append_nil, walk_nil] at walked
  rw [locate_eq, firm.askable _ (List.prefix_refl _)]
  dsimp only
  rw [walked]

theorem firm_status (firm : Firm files place) :
    ∃ node, files.node? place = some node ∧ files.status place = .ok node := by
  obtain ⟨node, stands, _⟩ := standing_node firm.standing
  exact ⟨node, stands, status_ok_iff.2 ⟨place, firm_locate firm, stands⟩⟩

/-! ### One name after another -/

def followLink (files : Files) (mode : Mode) (depth : Nat) (opened : List Location)
    (link : Location) (target : Chars) : Except Fault Reached :=
  match depth with
  | 0 => files.onLoop mode link []
  | depth + 1 =>
    files.follow mode depth (link :: opened) (startOf link.dropLast target).1
      (startOf link.dropLast target).2

theorem follow_eq (files : Files) (mode : Mode) (depth : Nat) (opened : List Location) :
    files.follow mode depth opened =
      files.followNames mode opened (files.followLink mode depth opened) := by
  cases depth <;> rfl

theorem follow_nil (files : Files) (mode : Mode) (depth : Nat) (opened : List Location)
    (place : Location) : files.follow mode depth opened place [] = .ok (.done place) := by
  rw [follow_eq]
  rfl

theorem follow_skip (files : Files) (mode : Mode) (depth : Nat) (opened : List Location)
    (place : Location) (name : Segment) (rest : List Segment)
    (skipped : name = [] ∨ name = Path.dot) :
    files.follow mode depth opened place (name :: rest) =
      files.follow mode depth opened place rest := by
  rw [follow_eq, followNames, if_pos skipped]

theorem follow_up (files : Files) (mode : Mode) (depth : Nat) (opened : List Location)
    (place : Location) (rest : List Segment) :
    files.follow mode depth opened place (Path.dotDot :: rest) =
      files.follow mode depth opened place.dropLast rest := by
  rw [follow_eq, followNames, if_neg (by decide), if_pos rfl]

def resume (files : Files) (mode : Mode) (depth : Nat) (opened : List Location)
    (rest : List Segment) : Reached → Except Fault Reached
  | .done last => files.follow mode depth opened last rest
  | .caught last => .ok (.caught (keepRest last rest))

/-- What comes of a name that a directory could hold: what stands there decides. -/
def followEntry (files : Files) (mode : Mode) (depth : Nat) (opened : List Location)
    (next : Location) (rest : List Segment) : Except Fault Reached :=
  match files.targetFor mode next with
  | .error fault => .error fault
  | .ok none => files.follow mode depth opened next rest
  | .ok (some target) =>
    if opened.contains next then files.onLoop mode next rest
    else files.followLink mode depth opened next target >>= files.resume mode depth opened rest

theorem follow_name (files : Files) (mode : Mode) (depth : Nat) (opened : List Location)
    (place : Location) (name : Segment) (rest : List Segment) (isName : IsName name) :
    files.follow mode depth opened place (name :: rest) =
      files.followEntry mode depth opened (place ++ [name]) rest := by
  have named : ¬(name = [] ∨ name = Path.dot) := not_or.2 ⟨isName.ne_nil, isName.ne_dot⟩
  rw [follow_eq, followNames, if_neg named, if_neg isName.ne_dotDot, followEntry, follow_eq]
  dsimp only
  cases files.targetFor mode (place ++ [name]) with
  | error fault => rfl
  | ok target? =>
      cases target? with
      | none => rfl
      | some target =>
          cases entered : files.followLink mode depth opened (place ++ [name]) target with
          | error fault => simp [entered, bind, Except.bind]
          | ok inner => cases inner <;> simp [entered, bind, Except.bind, resume, follow_eq]

/-- Following ends because each segment uses itself up and each link goes one level deeper. A segment
is stepped over, leads up, or is a name. -/
theorem follow_induction
    {motive : Nat → List Location → Location → (names : List Segment) → SlashFree names → Prop}
    (nil : ∀ depth opened place free, motive depth opened place [] free)
    (skip : ∀ depth opened place name rest free restFree, name = [] ∨ name = Path.dot →
      motive depth opened place rest restFree → motive depth opened place (name :: rest) free)
    (up : ∀ depth opened place rest free restFree,
      motive depth opened place.dropLast rest restFree →
      motive depth opened place (Path.dotDot :: rest) free)
    (entry : ∀ depth opened place name rest free restFree, IsName name →
      (∀ next, motive depth opened next rest restFree) →
      (∀ fewer others next names namesFree, fewer < depth →
        motive fewer others next names namesFree) →
      motive depth opened place (name :: rest) free)
    (depth : Nat) (opened : List Location) (place : Location) (names : List Segment)
    (free : SlashFree names) : motive depth opened place names free := by
  induction depth using Nat.strong_induction_on generalizing opened place names with
  | _ depth deeper =>
      induction names generalizing place with
      | nil => exact nil depth opened place free
      | cons name rest ih =>
          obtain ⟨nameFree, restFree⟩ := Path.slash_free_cons free
          rcases Path.segment_cases name nameFree with skipped | rfl | isName
          · exact skip depth opened place name rest free restFree skipped (ih place restFree)
          · exact up depth opened place rest free restFree (ih place.dropLast restFree)
          · refine entry depth opened place name rest free restFree isName ?_ ?_
            · exact fun next => ih next restFree
            · exact fun fewer others next names namesFree less =>
                deeper fewer less others next names namesFree

theorem target_strict (place : Location) :
    files.targetFor .strict place = files.linkTarget? place := by
  unfold targetFor
  cases files.linkTarget? (place : Absolute) with
  | error fault => cases fault <;> rfl
  | ok target? => rfl

/-- Strict resolution never puts up with a loop. -/
theorem on_loop_strict (files : Files) (link : Location) (rest : List Segment) :
    ∃ fault, files.onLoop .strict link rest = .error fault := by
  unfold onLoop
  cases files.status (link : Absolute) with
  | error fault => exact ⟨fault, rfl⟩
  | ok node => exact ⟨_, rfl⟩

theorem on_loop_ne_done (mode : Mode) (link last : Location) (rest : List Segment) :
    files.onLoop mode link rest ≠ .ok (.done last) := by
  cases mode with
  | strict =>
      obtain ⟨fault, loop⟩ := on_loop_strict files link rest
      simp [loop]
  | lenient => simp [onLoop]

theorem start_firm (firm : Firm files place) (target : Chars) :
    Firm files (startOf place target).1 := by
  unfold startOf
  by_cases absolute : target.head? = some '/'
  · simpa [absolute] using firm_top files
  · simpa [absolute] using firm

/-! ### Entries that are passed -/

/-- A link is passed: it was not open, and its target leads from the directory of the link to
`middle`. -/
structure LinkPassed (files : Files) (mode : Mode) (depth : Nat) (opened : List Location)
    (place : Location) (name : Segment) (middle : Location) : Prop where
  fresh : opened.contains (place ++ [name]) = false
  led : ∃ target fewer, depth = fewer + 1 ∧
    files.targetFor mode (place ++ [name]) = .ok (some target) ∧
      files.follow mode fewer ((place ++ [name]) :: opened) (startOf place target).1
        (startOf place target).2 = .ok (.done middle)

theorem entry_plain {mode : Mode} {depth : Nat} {opened : List Location} {next : Location}
    (rest : List Segment) (plain : files.targetFor mode next = .ok none) :
    files.followEntry mode depth opened next rest =
      files.follow mode depth opened next rest := by
  rw [followEntry, plain]

theorem entry_link {mode : Mode} {depth : Nat} {opened : List Location} {name : Segment}
    {middle : Location} (rest : List Segment)
    (passed : LinkPassed files mode depth opened place name middle) :
    files.followEntry mode depth opened (place ++ [name]) rest =
      files.follow mode depth opened middle rest := by
  obtain ⟨fresh, target, fewer, rfl, linked, led⟩ := passed
  simp only [followEntry, linked, fresh, followLink, List.dropLast_concat, led]
  rfl

/-- Names are followed to their end past an entry in two ways: no link stands there, or the link is
passed. -/
theorem entry_done {mode : Mode} {depth : Nat} {opened : List Location} {name : Segment}
    {rest : List Segment} {last : Location}
    (followed : files.followEntry mode depth opened (place ++ [name]) rest =
      .ok (.done last)) :
    files.targetFor mode (place ++ [name]) = .ok none ∨
      ∃ middle, LinkPassed files mode depth opened place name middle := by
  rw [followEntry] at followed
  cases entry : files.targetFor mode (place ++ [name]) with
  | error fault => simp [entry] at followed
  | ok target? =>
      cases target? with
      | none => exact Or.inl rfl
      | some target =>
          simp only [entry] at followed
          split at followed
          · exact absurd followed (on_loop_ne_done mode _ last rest)
          · rename_i fresh
            cases entered : files.followLink mode depth opened (place ++ [name]) target with
            | error fault =>
                rw [entered] at followed
                cases followed
            | ok inner =>
                rw [entered] at followed
                cases inner with
                | caught middle => cases followed
                | done middle =>
                    cases depth with
                    | zero => exact absurd entered (on_loop_ne_done mode _ middle [])
                    | succ fewer =>
                        rw [followLink, List.dropLast_concat] at entered
                        exact Or.inr ⟨middle, by simpa using fresh, target, fewer, rfl, entry,
                          entered⟩

theorem strict_done (depth : Nat) (opened : List Location) (names : List Segment)
    (free : SlashFree names) (reached : Reached)
    (followed : files.follow .strict depth opened place names = .ok reached) :
    ∃ last, reached = .done last := by
  induction depth, opened, place, names, free using follow_induction generalizing reached with
  | nil depth opened place =>
      rw [follow_nil] at followed
      exact ⟨place, (Except.ok.inj followed).symm⟩
  | skip depth opened place name rest _ _ skipped ih =>
      rw [follow_skip _ _ _ _ _ _ _ skipped] at followed
      exact ih reached followed
  | up depth opened place rest _ _ ih =>
      rw [follow_up] at followed
      exact ih reached followed
  | entry depth opened place name rest _ _ isName ih deeper =>
      rw [follow_name _ _ _ _ _ _ _ isName, followEntry] at followed
      cases entry : files.targetFor .strict (place ++ [name]) with
      | error fault => simp [entry] at followed
      | ok target? =>
          rw [entry] at followed
          cases target? with
          | none => exact ih _ reached followed
          | some target =>
              dsimp only at followed
              split at followed
              · obtain ⟨fault, loop⟩ := on_loop_strict files (place ++ [name]) rest
                rw [loop] at followed
                cases followed
              · cases depth with
                | zero =>
                    obtain ⟨fault, loop⟩ := on_loop_strict files (place ++ [name]) []
                    rw [followLink, loop] at followed
                    cases followed
                | succ fewer =>
                    rw [followLink, List.dropLast_concat] at followed
                    cases entered : files.follow .strict fewer ((place ++ [name]) :: opened)
                        (startOf place target).1 (startOf place target).2 with
                    | error fault =>
                        rw [entered] at followed
                        cases followed
                    | ok inner =>
                        rw [entered] at followed
                        obtain ⟨middle, rfl⟩ := deeper fewer _ _ _
                          (start_slash_free place target) (Nat.lt_succ_self fewer) inner entered
                        exact ih middle reached followed

theorem strict_firm (depth : Nat) (opened : List Location) (names : List Segment)
    (last : Location) (firm : Firm files place) (free : SlashFree names)
    (followed : files.follow .strict depth opened place names = .ok (.done last)) :
    Firm files last := by
  induction depth, opened, place, names, free using follow_induction generalizing last with
  | nil depth opened place =>
      rw [follow_nil] at followed
      cases followed
      exact firm
  | skip depth opened place name rest _ _ skipped ih =>
      rw [follow_skip _ _ _ _ _ _ _ skipped] at followed
      exact ih last firm followed
  | up depth opened place rest _ _ ih =>
      rw [follow_up] at followed
      exact ih last (firm_up firm) followed
  | entry depth opened place name rest _ _ isName ih deeper =>
      rw [follow_name _ _ _ _ _ _ _ isName] at followed
      rcases entry_done followed with plain | ⟨middle, passed⟩
      · rw [entry_plain rest plain] at followed
        rw [target_strict] at plain
        exact ih _ last (firm_into firm isName plain) followed
      · rw [entry_link rest passed] at followed
        obtain ⟨_, target, fewer, rfl, _, led⟩ := passed
        have middleFirm := deeper fewer _ _ _ (start_slash_free place target)
          (Nat.lt_succ_self fewer) middle (start_firm firm target) led
        exact ih middle last middleFirm followed

/-- What is resolved strictly is resolved leniently to the same place. -/
theorem lenient_of_strict (depth : Nat) (opened : List Location) (names : List Segment)
    (last : Location) (free : SlashFree names)
    (followed : files.follow .strict depth opened place names = .ok (.done last)) :
    files.follow .lenient depth opened place names = .ok (.done last) := by
  induction depth, opened, place, names, free using follow_induction generalizing last with
  | nil depth opened place => rwa [follow_nil] at followed ⊢
  | skip depth opened place name rest _ _ skipped ih =>
      rw [follow_skip _ _ _ _ _ _ _ skipped] at followed ⊢
      exact ih last followed
  | up depth opened place rest _ _ ih =>
      rw [follow_up] at followed ⊢
      exact ih last followed
  | entry depth opened place name rest _ _ isName ih deeper =>
      have lenient {target? : Option Chars}
          (strict : files.targetFor .strict (place ++ [name]) = .ok target?) :
          files.targetFor .lenient (place ++ [name]) = .ok target? := by
        rw [target_strict] at strict
        simp [targetFor, strict]
      rw [follow_name _ _ _ _ _ _ _ isName] at followed ⊢
      rcases entry_done followed with plain | ⟨middle, passed⟩
      · rw [entry_plain rest plain] at followed
        rw [entry_plain rest (lenient plain)]
        exact ih _ last followed
      · rw [entry_link rest passed] at followed
        obtain ⟨fresh, target, fewer, rfl, linked, led⟩ := passed
        have same := deeper fewer _ _ _ (start_slash_free place target)
          (Nat.lt_succ_self fewer) middle led
        rw [entry_link rest ⟨fresh, target, fewer, rfl, lenient linked, same⟩]
        exact ih middle last followed

/-! ### Parts of a path -/

theorem follow_append_done (mode : Mode) (depth : Nat) (opened : List Location)
    (names rest : List Segment) (last : Location) (free : SlashFree names)
    (followed : files.follow mode depth opened place names = .ok (.done last)) :
    files.follow mode depth opened place (names ++ rest) =
      files.follow mode depth opened last rest := by
  induction depth, opened, place, names, free using follow_induction with
  | nil depth opened place =>
      rw [follow_nil] at followed
      cases followed
      rfl
  | skip depth opened place name more _ _ skipped ih =>
      rw [follow_skip _ _ _ _ _ _ _ skipped] at followed
      rw [List.cons_append, follow_skip _ _ _ _ _ _ _ skipped]
      exact ih followed
  | up depth opened place more _ _ ih =>
      rw [follow_up] at followed
      rw [List.cons_append, follow_up]
      exact ih followed
  | entry depth opened place name more _ _ isName ih =>
      rw [follow_name _ _ _ _ _ _ _ isName] at followed
      rw [List.cons_append, follow_name _ _ _ _ _ _ _ isName]
      rcases entry_done followed with plain | ⟨middle, passed⟩
      · rw [entry_plain _ plain] at followed ⊢
        exact ih _ followed
      · rw [entry_link _ passed] at followed ⊢
        exact ih middle followed

theorem follow_append_error (mode : Mode) (depth : Nat) (opened : List Location)
    (names rest : List Segment) (fault : Fault) (free : SlashFree names)
    (followed : files.follow mode depth opened place names = .error fault) :
    files.follow mode depth opened place (names ++ rest) = .error fault := by
  induction depth, opened, place, names, free using follow_induction with
  | nil depth opened place =>
      rw [follow_nil] at followed
      cases followed
  | skip depth opened place name more _ _ skipped ih =>
      rw [follow_skip _ _ _ _ _ _ _ skipped] at followed
      rw [List.cons_append, follow_skip _ _ _ _ _ _ _ skipped]
      exact ih followed
  | up depth opened place more _ _ ih =>
      rw [follow_up] at followed
      rw [List.cons_append, follow_up]
      exact ih followed
  | entry depth opened place name more _ _ isName ih =>
      rw [follow_name _ _ _ _ _ _ _ isName, followEntry] at followed
      rw [List.cons_append, follow_name _ _ _ _ _ _ _ isName, followEntry]
      cases entry : files.targetFor mode (place ++ [name]) with
      | error other => simpa [entry] using followed
      | ok target? =>
          rw [entry] at followed
          cases target? with
          | none => exact ih _ followed
          | some target =>
              dsimp only at followed ⊢
              by_cases again : opened.contains (place ++ [name]) = true
              · rw [if_pos again] at followed ⊢
                cases mode with
                | strict => exact followed
                | lenient => cases followed
              · rw [if_neg again] at followed ⊢
                cases entered : files.followLink mode depth opened (place ++ [name]) target with
                | error other =>
                    rw [entered] at followed
                    exact followed
                | ok inner =>
                    rw [entered] at followed
                    cases inner with
                    | done middle => exact ih middle followed
                    | caught middle => cases followed

/-- The names of a firm place lead to it, whatever links are open. -/
theorem follow_from_top (mode : Mode) (depth : Nat) (opened : List Location)
    (firm : Firm files place) (rest : List Segment) :
    files.follow mode depth opened [] (place ++ rest) =
      files.follow mode depth opened place rest := by
  induction place using List.reverseRecOn generalizing rest with
  | nil => rfl
  | append_singleton before name ih =>
      obtain ⟨above, isName, entry⟩ := firm_last firm
      rw [List.append_assoc, ih above, List.singleton_append, follow_name _ _ _ _ _ _ _ isName,
        followEntry]
      cases mode <;> simp [targetFor, entry]

/-! ### Paths as they are written -/

theorem follow_blanks (mode : Mode) (depth : Nat) (opened : List Location)
    (blanks rest : List Segment) (blank : ∀ segment ∈ blanks, segment = []) :
    files.follow mode depth opened place (blanks ++ rest) =
      files.follow mode depth opened place rest := by
  induction blanks with
  | nil => rfl
  | cons first more ih =>
      obtain ⟨firstBlank, moreBlank⟩ := List.forall_mem_cons.1 blank
      rw [List.cons_append, follow_skip _ _ _ _ _ _ _ (Or.inl firstBlank), ih moreBlank]

theorem follow_chars (files : Files) (mode : Mode) (directory : Location) (path : Absolute)
    (names : Names path.location) :
    files.followFrom mode (startOf directory path.chars).1 (startOf directory path.chars).2 =
      files.followFrom mode [] path.location := by
  obtain ⟨blanks, blank, split⟩ := Path.split_chars path names
  simp only [startOf, Path.chars_head, if_true, split]
  exact follow_blanks mode _ [] blanks path.location blank

theorem resolve_strict_chars (directory : Location) (path : Absolute)
    (names : Names path.location) :
    files.resolveStrict directory path.chars =
      match files.followFrom .strict [] path.location with
      | .ok (.done place) => .ok place
      | .ok (.caught place) => .ok place
      | .error fault => .error (.of fault) := by
  rewrite [resolveStrict, ← follow_chars files .strict directory path names]
  rfl

/-- What is made of the place that lenient resolution comes to. -/
def landing (files : Files) (place : Location) : Except Unresolved Location :=
  match files.status place with
  | .error (.system .manyLinks path) => .error (.loop path)
  | .error .nullCharacter => .error (.blocked .nullCharacter)
  | _ => .ok place

theorem landing_ok {last : Location} (settled : files.landing place = .ok last) : last = place := by
  unfold landing at settled
  split at settled <;> simp_all

theorem resolve_lenient_eq (files : Files) (directory : Location) (path : Chars) :
    files.resolveLenient directory path =
      match files.followFrom .lenient (startOf directory path).1 (startOf directory path).2 with
      | .ok (.done place) => files.landing place
      | .ok (.caught place) => files.landing (Path.collapse true place)
      | .error fault => .error (.of fault) := by
  unfold resolveLenient
  dsimp only
  cases files.followFrom .lenient (startOf directory path).1 (startOf directory path).2 with
  | error fault => rfl
  | ok reached => cases reached <;> rfl

theorem resolve_lenient_chars (directory : Location) (path other : Absolute)
    (names : Names path.location) (otherNames : Names other.location)
    (same : files.followFrom .lenient [] path.location =
      files.followFrom .lenient [] other.location) :
    files.resolveLenient directory path.chars = files.resolveLenient directory other.chars := by
  rw [resolve_lenient_eq, resolve_lenient_eq, follow_chars files .lenient directory path names,
    follow_chars files .lenient directory other otherNames, same]

theorem resolve_strict_firm {directory : Location} {path : Chars} (firm : Firm files directory)
    (resolved : files.resolveStrict directory path = .ok place) : Firm files place := by
  rw [resolveStrict] at resolved
  cases followed : files.followFrom .strict (startOf directory path).1
      (startOf directory path).2 with
  | error fault => simp [followed] at resolved
  | ok reached =>
      obtain ⟨last, rfl⟩ := strict_done _ _ _ (start_slash_free directory path) reached followed
      simp only [followed, Except.ok.injEq] at resolved
      rw [← resolved]
      exact strict_firm _ _ _ last (start_firm firm path) (start_slash_free directory path)
        followed

theorem canonical_firm {names last : Location} (named : Names names)
    (followed : files.followFrom .strict [] names = .ok (.done last)) : Firm files last :=
  strict_firm _ _ _ last (firm_top files) (Path.names_slash_free named) followed

theorem follow_firm (mode : Mode) (firm : Firm files place) :
    files.followFrom mode [] place = .ok (.done place) := by
  have followed := follow_from_top mode (files.nodes.length + 1) [] firm []
  rwa [List.append_nil, follow_nil] at followed

theorem resolve_strict_of_firm (directory : Location) (firm : Firm files place) :
    files.resolveStrict directory (place : Absolute).chars = .ok place := by
  rw [resolve_strict_chars _ _ (standing_names firm.standing), follow_firm .strict firm]

theorem resolve_lenient_of_done {directory : Location} {path : Absolute}
    (names : Names path.location) (last : Location)
    (followed : files.followFrom .lenient [] path.location = .ok (.done last)) :
    files.resolveLenient directory path.chars = files.landing last := by
  rw [resolve_lenient_eq, follow_chars files .lenient directory path names, followed]

/-- A path that is resolved leniently has been followed, and to the same place if no link leads
through itself. -/
theorem follow_of_resolve_lenient {directory last : Location} {path : Absolute}
    (names : Names path.location)
    (resolved : files.resolveLenient directory path.chars = .ok last) :
    ∃ reached, files.followFrom .lenient [] path.location = .ok reached ∧
      ∀ place, reached = .done place → last = place := by
  cases followed : files.followFrom .lenient [] path.location with
  | error fault =>
      rw [resolve_lenient_eq, follow_chars files .lenient directory path names,
        followed] at resolved
      cases resolved
  | ok reached =>
      refine ⟨reached, rfl, ?_⟩
      rintro place rfl
      rw [resolve_lenient_of_done names place followed] at resolved
      exact landing_ok resolved

theorem resolve_lenient_of_firm (directory : Location) (firm : Firm files place) :
    files.resolveLenient directory (place : Absolute).chars = .ok place := by
  obtain ⟨node, _, asked⟩ := firm_status firm
  rw [resolve_lenient_of_done (standing_names firm.standing) place (follow_firm .lenient firm),
    landing, asked]

/-- Past what was resolved strictly, a path is resolved leniently from the canonical location. -/
theorem resolve_lenient_from (directory : Location) {before after canonical : Location}
    (doubled : Bool) (names : Names (before ++ after))
    (resolved : files.followFrom .strict [] before = .ok (.done canonical)) :
    files.resolveLenient directory (⟨before ++ after, doubled⟩ : Absolute).chars =
      files.resolveLenient directory ((canonical ++ after : Location) : Absolute).chars := by
  have beforeNames : Names before := fun name member => names name (by simp [member])
  have afterNames : Names after := fun name member => names name (by simp [member])
  have free := Path.names_slash_free beforeNames
  have firm := canonical_firm beforeNames resolved
  refine resolve_lenient_chars directory _ _ names ?_ ?_
  · exact List.forall_mem_append.2 ⟨standing_names firm.standing, afterNames⟩
  · have lenient := lenient_of_strict _ _ _ _ free resolved
    exact (follow_append_done .lenient _ [] before after canonical free lenient).trans
      (follow_from_top .lenient _ [] firm after).symm

end StorefrontSurvey.Files
