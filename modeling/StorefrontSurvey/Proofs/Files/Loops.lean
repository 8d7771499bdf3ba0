import Mathlib.Logic.Relation
import StorefrontSurvey.Proofs.Files.Depth
/-!
Links that lead back to themselves. A way is followed name by name, each link replaced by its target;
a loop is met where the way of a link comes to the same link again. Such a way never ends. Strict
resolution comes to an end all the same, and the main statement says where: at the last place, at a
name that cannot be asked for, or at a loop. A loop is reported as one, or as a way through something
that is no directory, and never as something missing.
-/
namespace StorefrontSurvey.Files

open Relation (ReflTransGen TransGen)
open StorefrontSurvey.Path (Chars Segment Location Absolute IsName Names SlashFree)

/-- A place, and the names that are left to be followed from there. -/
structure Way where
  place : Location
  names : List Segment

/-- A way with more names after it. -/
def Way.more (way : Way) (rest : List Segment) : Way := ⟨way.place, way.names ++ rest⟩

/-- What the first name of a way makes of it. The target of a link takes the link's place. -/
inductive Step (files : Files) : Way → Way → Prop
  | skip {place : Location} {name : Segment} {rest : List Segment}
      (skipped : name = [] ∨ name = Path.dot) : Step files ⟨place, name :: rest⟩ ⟨place, rest⟩
  | up {place : Location} {rest : List Segment} :
      Step files ⟨place, Path.dotDot :: rest⟩ ⟨place.dropLast, rest⟩
  | entry {place : Location} {name : Segment} {rest : List Segment} (isName : IsName name)
      (plain : files.linkTarget? ((place ++ [name] : Location) : Absolute) = .ok none) :
      Step files ⟨place, name :: rest⟩ ⟨place ++ [name], rest⟩
  | link {place : Location} {name : Segment} {rest : List Segment} {target : Chars}
      (isName : IsName name)
      (linked : files.linkTarget? ((place ++ [name] : Location) : Absolute) = .ok (some target)) :
      Step files ⟨place, name :: rest⟩
        ⟨(startOf place target).1, (startOf place target).2 ++ rest⟩

/-- The way of a link comes to the same link again. -/
def Loops (files : Files) (place : Location) (name : Segment) : Prop :=
  ∃ rest, TransGen (Step files) ⟨place, [name]⟩ ⟨place, name :: rest⟩

def MeetsLoop (files : Files) (way : Way) : Prop :=
  ∃ place name rest, ReflTransGen (Step files) way ⟨place, name :: rest⟩ ∧
    Loops files place name

variable {files : Files} {way next : Way} {place : Location} {name : Segment}

/-! ### Ways -/

theorem step_more (step : Step files way next) (rest : List Segment) :
    Step files (way.more rest) (next.more rest) := by
  cases step with
  | skip skipped => exact .skip skipped
  | up => exact .up
  | entry isName plain => exact .entry isName plain
  | link isName linked =>
      simp only [Way.more, List.cons_append, List.append_assoc]
      exact .link isName linked

theorem leads_more (leads : ReflTransGen (Step files) way next) (rest : List Segment) :
    ReflTransGen (Step files) (way.more rest) (next.more rest) :=
  leads.lift (Way.more · rest) fun _ _ step => step_more step rest

theorem no_step_at_end (place : Location) : ¬Step files ⟨place, []⟩ next := by
  intro step
  cases step

theorem no_step_unseen {rest : List Segment} {fault : Fault} (isName : IsName name)
    (unseen : files.linkTarget? ((place ++ [name] : Location) : Absolute) = .error fault) :
    ¬Step files ⟨place, name :: rest⟩ next := by
  intro step
  cases step with
  | skip skipped => exact skipped.elim isName.ne_nil isName.ne_dot
  | up => exact isName.ne_dotDot rfl
  | entry _ plain => simp [unseen] at plain
  | link _ linked => simp [unseen] at linked

theorem step_unique {other : Way} (step : Step files way next) (again : Step files way other) :
    next = other := by
  cases step with
  | skip skipped =>
      cases again with
      | skip => rfl
      | up => exact absurd skipped (by decide)
      | entry isName => exact (skipped.elim isName.ne_nil isName.ne_dot).elim
      | link isName => exact (skipped.elim isName.ne_nil isName.ne_dot).elim
  | up =>
      cases again with
      | skip skipped => exact absurd skipped (by decide)
      | up => rfl
      | entry isName => exact absurd rfl isName.ne_dotDot
      | link isName => exact absurd rfl isName.ne_dotDot
  | entry isName plain =>
      cases again with
      | skip skipped => exact (skipped.elim isName.ne_nil isName.ne_dot).elim
      | up => exact absurd rfl isName.ne_dotDot
      | entry => rfl
      | link _ linked => simp [plain] at linked
  | link isName linked =>
      cases again with
      | skip skipped => exact (skipped.elim isName.ne_nil isName.ne_dot).elim
      | up => exact absurd rfl isName.ne_dotDot
      | entry _ plain => simp [linked] at plain
      | link _ same =>
          rw [linked] at same
          cases same
          rfl

/-! ### Loops never end -/

theorem meets_loop_before (step : Step files way next) (meets : MeetsLoop files next) :
    MeetsLoop files way := by
  obtain ⟨place, name, rest, leads, loops⟩ := meets
  exact ⟨place, name, rest, leads.head step, loops⟩

theorem meets_loop_more (meets : MeetsLoop files way) (rest : List Segment) :
    MeetsLoop files (way.more rest) := by
  obtain ⟨place, name, more, leads, loops⟩ := meets
  exact ⟨place, name, more ++ rest, leads_more leads rest, loops⟩

/-- Where a loop is met there is a next step, and the loop is still ahead. -/
theorem meets_loop_step (meets : MeetsLoop files way) :
    ∃ next, Step files way next ∧ MeetsLoop files next := by
  obtain ⟨place, name, rest, leads, loops⟩ := meets
  rcases ReflTransGen.cases_head leads with rfl | ⟨next, step, onward⟩
  · obtain ⟨more, again⟩ := loops
    obtain ⟨next, step, around⟩ := TransGen.head'_iff.1 again
    refine ⟨next.more rest, step_more step rest, place, name, more ++ rest, ?_, more, again⟩
    exact leads_more around rest
  · exact ⟨next, step, place, name, rest, onward, loops⟩

theorem meets_loop_after (meets : MeetsLoop files way) (step : Step files way next) :
    MeetsLoop files next := by
  obtain ⟨other, otherStep, later⟩ := meets_loop_step meets
  rwa [step_unique step otherStep]

theorem meets_loop_onward (meets : MeetsLoop files way)
    (leads : ReflTransGen (Step files) way next) : MeetsLoop files next := by
  induction leads with
  | refl => exact meets
  | tail _ step ih => exact meets_loop_after ih step

/-! ### What a walk says of a loop -/

/-- Whether a cause may end a way that would go on forever: too many links, or a name asked for in
something that is no directory. -/
def Cause.endsLoop : Cause → Bool
  | .manyLinks => true
  | .notDirectory => true
  | _ => false

/-- A walk goes step by step, as long as it goes through directories. -/
theorem walk_in_loop (links : Nat) (names : List Segment) (standing : Standing files place)
    (free : SlashFree names) (meets : MeetsLoop files ⟨place, names⟩) :
    ∃ cause, files.walk true links place names = .error cause ∧ cause.endsLoop = true := by
  induction links, place, names using walk_induction with
  | nil links place =>
      obtain ⟨next, step, _⟩ := meets_loop_step meets
      exact absurd step (no_step_at_end place)
  | cons links place name rest ih deeper =>
      obtain ⟨next, step, later⟩ := meets_loop_step meets
      have restFree := (Path.slash_free_cons free).2
      rw [walk_cons]
      cases step with
      | skip skipped =>
          rw [turn_skip skipped]
          cases files.isDirectory place with
          | false => exact ⟨.notDirectory, rfl, rfl⟩
          | true => exact ih place standing restFree later
      | up =>
          rw [turn_up]
          cases files.isDirectory place with
          | false => exact ⟨.notDirectory, rfl, rfl⟩
          | true => exact ih place.dropLast (standing_up standing) restFree later
      | entry isName plain =>
          have found := (link_target_turn standing isName plain).2
          rw [found]
          exact ih _ (.into standing isName found) restFree later
      | @link _ _ _ target isName linked =>
          have found : files.turn place name = .through target :=
            (link_target_turn standing isName linked).2
          simp only [found, Bool.not_true, Bool.and_false, Bool.false_eq_true, if_false]
          cases links with
          | zero => exact ⟨.manyLinks, rfl, rfl⟩
          | succ links =>
              exact deeper links _ _ (Nat.lt_succ_self links) (start_standing standing target)
                (slash_free_append (start_slash_free place target) restFree) later

/-- A link that leads back to itself is asked about, and the answer is what ends its walk. -/
theorem on_loop_fault {target : Chars} (standing : Standing files place) (isName : IsName name)
    (linked : files.linkTarget? ((place ++ [name] : Location) : Absolute) = .ok (some target))
    (loops : Loops files place name) (rest : List Segment) :
    ∃ cause path, files.onLoop .strict (place ++ [name]) rest = .error (.system cause path) ∧
      cause.endsLoop = true := by
  have nameFree : SlashFree [name] := by simpa [SlashFree] using isName.no_slash
  have free : SlashFree (place ++ [name]) :=
    slash_free_append (Path.names_slash_free (standing_names standing)) nameFree
  have meets : MeetsLoop files ⟨place, [name]⟩ := ⟨place, name, [], .refl, loops⟩
  obtain ⟨cause, walked, ends⟩ := walk_in_loop mostLinks [name] standing nameFree meets
  rw [← walk_from_top standing] at walked
  refine ⟨cause, ((place ++ [name] : Location) : Absolute).text, ?_, ends⟩
  rw [onLoop, status_eq _ free, (link_target_turn standing isName linked).1]
  dsimp only
  rw [walked]

/-! ### Where strict resolution ends -/

/-- An open link is one on whose own way the names are that are being followed. -/
def Opened (files : Files) (link : Location) (way : Way) : Prop :=
  ∃ place name more, link = place ++ [name] ∧
    TransGen (Step files) ⟨place, [name]⟩ (way.more more)

theorem opened_onward {link : Location} (opened : Opened files link way)
    (leads : ReflTransGen (Step files) way next) : Opened files link next := by
  obtain ⟨place, name, more, rfl, reached⟩ := opened
  exact ⟨place, name, more, rfl, reached.trans_left (leads_more leads more)⟩

theorem opened_into {link : Location} {rest : List Segment}
    (opened : Opened files link (next.more rest)) : Opened files link next := by
  obtain ⟨place, name, more, rfl, reached⟩ := opened
  refine ⟨place, name, rest ++ more, rfl, ?_⟩
  simpa [Way.more] using reached

theorem opened_again {rest : List Segment}
    (opened : Opened files (place ++ [name]) ⟨place, name :: rest⟩) : Loops files place name := by
  obtain ⟨before, other, more, same, reached⟩ := opened
  obtain ⟨rfl, last⟩ := List.append_inj' same rfl
  obtain rfl := List.singleton_inj.1 last
  exact ⟨rest ++ more, reached⟩

/-- What strict resolution of a way comes to. -/
inductive StrictEnd (files : Files) (way : Way) : Except Fault Reached → Prop
  | arrived {last : Location} (leads : ReflTransGen (Step files) way ⟨last, []⟩) :
      StrictEnd files way (.ok (.done last))
  | unseen {place : Location} {name : Segment} {rest : List Segment} {fault : Fault}
      (leads : ReflTransGen (Step files) way ⟨place, name :: rest⟩) (isName : IsName name)
      (failed : files.linkTarget? ((place ++ [name] : Location) : Absolute) = .error fault) :
      StrictEnd files way (.error fault)
  | looped {cause : Cause} {path : String} (meets : MeetsLoop files way)
      (ends : cause.endsLoop = true) : StrictEnd files way (.error (.system cause path))

theorem strict_end_before {outcome : Except Fault Reached} (step : Step files way next)
    (ended : StrictEnd files next outcome) : StrictEnd files way outcome := by
  cases ended with
  | arrived leads => exact .arrived (leads.head step)
  | unseen leads isName failed => exact .unseen (leads.head step) isName failed
  | looped meets ends => exact .looped (meets_loop_before step meets) ends

theorem strict_end_leads {outcome : Except Fault Reached}
    (leads : ReflTransGen (Step files) way next) (ended : StrictEnd files next outcome) :
    StrictEnd files way outcome := by
  induction leads using ReflTransGen.head_induction_on with
  | refl => exact ended
  | head step _ ih => exact strict_end_before step ih

/-- What keeps the first names of a way from being followed keeps all of them from it. -/
theorem strict_end_more {fault : Fault} (rest : List Segment)
    (ended : StrictEnd files way (.error fault)) : StrictEnd files (way.more rest) (.error fault) := by
  cases ended with
  | unseen leads isName failed => exact .unseen (leads_more leads rest) isName failed
  | looped meets ends => exact .looped (meets_loop_more meets rest) ends

/-- Strict resolution ends where the way ends, at a name that cannot be asked for, or at a loop. -/
theorem strict_ends (depth : Nat) (opened : List Location) (names : List Segment)
    (firm : Firm files place) (free : SlashFree names)
    (room : (files.unopened opened).length ≤ depth)
    (known : ∀ link ∈ opened, Opened files link ⟨place, names⟩) :
    StrictEnd files ⟨place, names⟩ (files.follow .strict depth opened place names) := by
  induction depth, opened, place, names, free using follow_induction with
  | nil depth opened place =>
      rw [follow_nil]
      exact .arrived .refl
  | skip depth opened place name rest _ _ skipped ih =>
      have step : Step files ⟨place, name :: rest⟩ ⟨place, rest⟩ := .skip skipped
      rw [follow_skip _ _ _ _ _ _ _ skipped]
      exact strict_end_before step
        (ih firm room fun link member => opened_onward (known link member) (.single step))
  | up depth opened place rest _ _ ih =>
      have step : Step files ⟨place, Path.dotDot :: rest⟩ ⟨place.dropLast, rest⟩ := .up
      rw [follow_up]
      exact strict_end_before step
        (ih (firm_up firm) room fun link member =>
          opened_onward (known link member) (.single step))
  | entry depth opened place name rest _ _ isName ih deeper =>
      rw [follow_name _ _ _ _ _ _ _ isName, followEntry, target_strict]
      cases entry : files.linkTarget? ((place ++ [name] : Location) : Absolute) with
      | error fault => exact .unseen .refl isName entry
      | ok target? =>
          cases target? with
          | none =>
              have step : Step files ⟨place, name :: rest⟩ ⟨place ++ [name], rest⟩ :=
                .entry isName entry
              exact strict_end_before step
                (ih _ (firm_into firm isName entry) room fun link member =>
                  opened_onward (known link member) (.single step))
          | some target =>
              dsimp only
              split
              · rename_i again
                have loops := opened_again (known _ (by simpa using again))
                obtain ⟨cause, path, loop, ends⟩ :=
                  on_loop_fault firm.standing isName entry loops rest
                rw [loop]
                exact .looped ⟨place, name, rest, .refl, loops⟩ ends
              · rename_i fresh
                -- The link itself was not open, so there is room to follow it.
                have stands :=
                  name_turn_through isName (link_target_turn firm.standing isName entry).2
                have listed : place ++ [name] ∈ files.nodes.map Prod.fst :=
                  List.mem_map_of_mem (node_listed (by simp) stands)
                have less := unopened_less listed (by simpa using fresh)
                obtain ⟨fewer, rfl⟩ : ∃ fewer, depth = fewer + 1 :=
                  Nat.exists_eq_succ_of_ne_zero (by omega)
                let inside : Way := ⟨(startOf place target).1, (startOf place target).2⟩
                have step : Step files ⟨place, name :: rest⟩ (inside.more rest) :=
                  .link isName entry
                have alone : Step files ⟨place, [name]⟩ (inside.more []) := .link isName entry
                have targetFree := start_slash_free place target
                have started := start_firm firm target
                have led := deeper fewer ((place ++ [name]) :: opened) _ _ targetFree
                  (Nat.lt_succ_self fewer) started (by omega) (by
                    intro link member
                    rcases List.mem_cons.1 member with rfl | earlier
                    · exact ⟨place, name, [], rfl, .single alone⟩
                    · exact opened_into (opened_onward (known link earlier) (.single step)))
                refine strict_end_before step ?_
                rw [followLink, List.dropLast_concat]
                cases followed : files.follow .strict fewer ((place ++ [name]) :: opened)
                    (startOf place target).1 (startOf place target).2 with
                | error fault =>
                    rw [followed] at led
                    exact strict_end_more rest led
                | ok reached =>
                    rw [followed] at led
                    cases led with
                    | @arrived last leads =>
                        have onward := leads_more leads rest
                        refine strict_end_leads onward ?_
                        exact ih last (strict_firm _ _ _ last started targetFree followed) room
                          fun link member =>
                            opened_onward (known link member) (onward.head step)

/-- A loop is met on the way of a path: strict resolution fails, and not for something missing. -/
theorem strict_of_loop {names : Location} (free : SlashFree names)
    (meets : MeetsLoop files ⟨[], names⟩) :
    ∃ cause path, files.followFrom .strict [] names = .error (.system cause path) ∧
      cause.endsLoop = true := by
  have ended := strict_ends (files.nodes.length + 1) [] names (firm_top files) free
    ((unopened_length_le files []).trans (Nat.le_succ _)) (by simp)
  rw [← followFrom] at ended
  cases followed : files.followFrom .strict [] names with
  | ok reached =>
      rw [followed] at ended
      cases ended with
      | arrived leads =>
          obtain ⟨next, step, _⟩ := meets_loop_step (meets_loop_onward meets leads)
          exact absurd step (no_step_at_end _)
  | error fault =>
      rw [followed] at ended
      cases ended with
      | looped _ ends => exact ⟨_, _, rfl, ends⟩
      | unseen leads isName failed =>
          obtain ⟨next, step, _⟩ := meets_loop_step (meets_loop_onward meets leads)
          exact absurd step (no_step_unseen isName failed)

end StorefrontSurvey.Files
