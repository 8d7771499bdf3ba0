import StorefrontSurvey.Proofs.Files.Resolution
/-!
Walks against resolution. Strict resolution comes at least as far as a walk does and to the same
places, so what it finds missing no walk reaches. Beyond something missing, lenient resolution keeps
the names as they are written.
-/
namespace StorefrontSurvey.Files

open StorefrontSurvey.Path (Chars Segment Location Absolute IsName Names SlashFree)

variable {files : Files} {place : Location}

/-- Whether a fault is about what stands on the way of a path. -/
def Fault.isWrongTurn : Fault → Bool
  | .system .missing _ => true
  | .system .notDirectory _ => true
  | _ => false

/-- What strict resolution may say of names on the way of a walk that leads somewhere: where the
walk passes, or a fault that is not about what stands on the way. -/
def Tracks (files : Files) (rest : List Segment) (last : Location) : Except Fault Reached → Prop
  | .ok (.done middle) => ∃ links, files.walk true links middle rest = .ok last
  | .ok (.caught _) => False
  | .error fault => fault.isWrongTurn = false

theorem barred_fault {path : Absolute} {fault : Fault} (bar : barred? path = some fault) :
    fault = .nullCharacter ∨ fault = .system .nameTooLong path.text := by
  unfold barred? at bar
  split_ifs at bar
  · exact Or.inl (Option.some.inj bar).symm
  · exact Or.inr (Option.some.inj bar).symm

theorem tracks_barred {path : Absolute} {fault : Fault} (bar : barred? path = some fault)
    (rest : List Segment) (last : Location) : Tracks files rest last (.error fault) := by
  rcases barred_fault bar with rfl | rfl <;> rfl

/-- A link that a walk passes is not found missing when it is met once more. -/
theorem loop_tracks {name : Segment} {target : Chars} {links : Nat} {more : List Segment}
    {reached : Location} (standing : Standing files place) (isName : IsName name)
    (found : files.turn place name = .through target)
    (walked : files.walk true links (startOf place target).1
      ((startOf place target).2 ++ more) = .ok reached) (kept rest : List Segment)
    (last : Location) : Tracks files rest last (files.onLoop .strict (place ++ [name]) kept) := by
  obtain ⟨middle, part⟩ := walk_part files links _ _ more reached walked
  have single : files.walk true mostLinks [] (place ++ [name]) =
      files.walk true 39 (startOf place target).1 (startOf place target).2 := by
    rw [walk_from_top standing, walk_cons, found]
    simp [enter, mostLinks]
  rw [onLoop, status_eq _ (slash_free_append
    (Path.names_slash_free (standing_names standing)) (by simpa [SlashFree] using isName.no_slash))]
  cases bar : barred? ((place ++ [name] : Location) : Absolute) with
  | some fault => exact tracks_barred bar rest last
  | none =>
      dsimp only
      rw [single]
      cases again : files.walk true 39 (startOf place target).1 (startOf place target).2 with
      | ok other => rfl
      | error cause =>
          by_cases many : cause = .manyLinks
          · rw [many]
            rfl
          · have same := walks_agree files true 39 links (startOf place target).1
              (startOf place target).2 (by simpa [again] using many) (by simp [part])
            rw [again, part] at same
            cases same

theorem tracks_resume {outcome : Except Fault Reached} {depth : Nat} {opened : List Location}
    {more rest : List Segment} {last : Location}
    (tracked : Tracks files (more ++ rest) last outcome)
    (led : ∀ middle, outcome = .ok (.done middle) → Firm files middle)
    (onward : ∀ middle links, Firm files middle →
      files.walk true links middle (more ++ rest) = .ok last →
        Tracks files rest last (files.follow .strict depth opened middle more)) :
    Tracks files rest last (outcome >>= files.resume .strict depth opened more) := by
  cases outcome with
  | error fault => exact tracked
  | ok reached =>
      cases reached with
      | caught middle => exact tracked.elim
      | done middle =>
          obtain ⟨links, walked⟩ := tracked
          exact onward middle links (led middle rfl) walked

/-- Strict resolution along a walk that leads somewhere comes to where the walk passes, unless it
stops at something else than what stands on the way. -/
theorem strict_tracks (depth : Nat) (opened : List Location) (names rest : List Segment)
    (links : Nat) (last : Location) (firm : Firm files place) (free : SlashFree names)
    (walked : files.walk true links place (names ++ rest) = .ok last) :
    Tracks files rest last (files.follow .strict depth opened place names) := by
  induction depth, opened, place, names, free using follow_induction generalizing rest links with
  | nil depth opened place =>
      rw [follow_nil]
      exact ⟨links, walked⟩
  | skip depth opened place name more _ _ skipped ih =>
      rw [List.cons_append, walk_cons, turn_skip skipped] at walked
      rw [follow_skip _ _ _ _ _ _ _ skipped]
      cases stands : files.isDirectory place with
      | false => simp [stands] at walked
      | true => exact ih rest links firm (by simpa [stands] using walked)
  | up depth opened place more _ _ ih =>
      rw [List.cons_append, walk_cons, turn_up] at walked
      rw [follow_up]
      cases stands : files.isDirectory place with
      | false => simp [stands] at walked
      | true => exact ih rest links (firm_up firm) (by simpa [stands] using walked)
  | entry depth opened place name more _ _ isName ih deeper =>
      rw [List.cons_append, walk_cons] at walked
      rw [follow_name _ _ _ _ _ _ _ isName, followEntry, target_strict,
        link_target_eq firm.standing isName]
      cases bar : barred? ((place ++ [name] : Location) : Absolute) with
      | some fault => exact tracks_barred bar rest last
      | none =>
          cases found : files.turn place name with
          | stop cause => simp [found] at walked
          | go next =>
              obtain ⟨rfl, _⟩ := name_turn_go isName found
              have entry : files.linkTarget? ((place ++ [name] : Location) : Absolute) =
                  .ok none := by
                rw [link_target_eq firm.standing isName, bar, found]
              exact ih _ rest links (firm_into firm isName entry)
                (by simpa [found] using walked)
          | through target =>
              rw [found] at walked
              cases links with
              | zero => simp [enter] at walked
              | succ links =>
                  have entered : files.walk true links (startOf place target).1
                      ((startOf place target).2 ++ (more ++ rest)) = .ok last := by
                    simpa [enter] using walked
                  dsimp only
                  split
                  · exact loop_tracks firm.standing isName found entered more rest last
                  · refine tracks_resume ?_ ?_ fun middle fewer middleFirm onward =>
                      ih middle rest fewer middleFirm onward
                    · cases depth with
                      | zero =>
                          exact loop_tracks firm.standing isName found entered [] (more ++ rest)
                            last
                      | succ depth =>
                          rw [followLink, List.dropLast_concat]
                          exact deeper depth _ _ _ (start_slash_free place target)
                            (Nat.lt_succ_self depth) (more ++ rest) links
                            (start_firm firm target) entered
                    · intro middle led
                      cases depth with
                      | zero => exact absurd led (on_loop_ne_done .strict _ middle [])
                      | succ depth =>
                          rw [followLink, List.dropLast_concat] at led
                          exact strict_firm depth _ _ middle (start_firm firm target)
                            (start_slash_free place target) led

/-- What a path shows is what stands where strict resolution leads, unless strict resolution stops
at a fault that is not about what stands on the way. -/
theorem strict_of_status {path : Absolute} {node : Node} (free : SlashFree path.location)
    (asked : files.status path = .ok node) :
    (∃ last, files.followFrom .strict [] path.location = .ok (.done last)) ∨
      ∃ fault, files.followFrom .strict [] path.location = .error fault ∧
        fault.isWrongTurn = false := by
  rw [status_eq path free] at asked
  cases bar : barred? path with
  | some fault => simp [bar] at asked
  | none =>
      cases walked : files.walk true mostLinks [] path.location with
      | error cause => simp [bar, walked] at asked
      | ok last =>
          have tracked := strict_tracks (files.nodes.length + 1) [] path.location [] mostLinks
            last (firm_top files) free (by simpa using walked)
          rw [← followFrom] at tracked
          cases followed : files.followFrom .strict [] path.location with
          | error fault =>
              rw [followed] at tracked
              exact Or.inr ⟨fault, rfl, tracked⟩
          | ok reached =>
              rw [followed] at tracked
              cases reached with
              | done middle => exact Or.inl ⟨middle, rfl⟩
              | caught middle => exact tracked.elim

theorem walk_of_status {path : Absolute} {node : Node} {last : Location}
    (free : SlashFree path.location) (asked : files.status path = .ok node)
    (followed : files.followFrom .strict [] path.location = .ok (.done last)) :
    barred? path = none ∧ files.walk true mostLinks [] path.location = .ok last := by
  rw [status_eq path free] at asked
  cases bar : barred? path with
  | some fault => simp [bar] at asked
  | none =>
      cases walked : files.walk true mostLinks [] path.location with
      | error cause => simp [bar, walked] at asked
      | ok reached =>
          have tracked := strict_tracks (files.nodes.length + 1) [] path.location [] mostLinks
            reached (firm_top files) free (by simpa using walked)
          rw [← followFrom, followed] at tracked
          obtain ⟨links, onward⟩ := tracked
          rw [walk_nil] at onward
          exact ⟨rfl, onward.symm⟩

/-- What stands in a directory is shown by a path through that directory, unless the path is
barred. -/
theorem status_onward {before last : Location} {name : Segment} {node : Node} {doubled : Bool}
    (names : Names (before ++ [name])) (asked : files.status ⟨before, doubled⟩ = .ok node)
    (followed : files.followFrom .strict [] before = .ok (.done last))
    (found : files.turn last name = .go (last ++ [name])) :
    (∃ fault, barred? ⟨before ++ [name], doubled⟩ = some fault) ∨
      ∃ other, files.status ⟨before ++ [name], doubled⟩ = .ok other := by
  have beforeNames : Names before := fun other member => names other (by simp [member])
  obtain ⟨_, walked⟩ := walk_of_status (Path.names_slash_free beforeNames) asked followed
  have onward : files.walk true mostLinks [] (before ++ [name]) = .ok (last ++ [name]) := by
    refine walk_onward files mostLinks [] last before [name] _ walked fun links => ?_
    rw [walk_cons, found]
    exact walk_nil ..
  rw [status_eq _ (Path.names_slash_free names)]
  cases bar : barred? (⟨before ++ [name], doubled⟩ : Absolute) with
  | some fault => exact Or.inl ⟨fault, rfl⟩
  | none =>
      dsimp only
      rw [onward]
      exact Or.inr ⟨_, rfl⟩

/-- What strict resolution finds missing cannot be asked for. -/
theorem status_of_wrong_turn {path : Absolute} {fault : Fault}
    (free : SlashFree path.location)
    (followed : files.followFrom .strict [] path.location = .error fault)
    (wrong : fault.isWrongTurn = true) : ∃ other, files.status path = .error other := by
  cases asked : files.status path with
  | error other => exact ⟨other, rfl⟩
  | ok node =>
      rcases strict_of_status free asked with ⟨last, done⟩ | ⟨other, failed, right⟩
      · rw [followed] at done
        cases done
      · rw [followed] at failed
        cases failed
        rw [wrong] at right
        cases right

/-! ### Beyond something missing -/

/-- No path leads to a place or beyond it. -/
def Blank (files : Files) (place : Location) : Prop :=
  ∀ followLast beyond, ∃ fault,
    files.locate followLast ((place ++ beyond : Location) : Absolute) = .error fault

theorem blank_of_stop {name : Segment} {cause : Cause} (standing : Standing files place)
    (found : files.turn place name = .stop cause) : Blank files (place ++ [name]) := by
  intro followLast beyond
  rw [locate_eq, List.append_assoc, walk_from_top standing, List.singleton_append, walk_cons,
    found]
  cases barred? ((place ++ name :: beyond : Location) : Absolute) with
  | some fault => exact ⟨fault, rfl⟩
  | none => exact ⟨_, rfl⟩

theorem blank_link_target (blank : Blank files place) :
    ∃ fault, files.linkTarget? (place : Absolute) = .error fault := by
  obtain ⟨fault, failed⟩ := blank false []
  rw [List.append_nil] at failed
  exact ⟨fault, by rw [linkTarget?, failed]; rfl⟩

theorem blank_status (blank : Blank files place) (beyond : List Segment) :
    ∃ fault, files.status ((place ++ beyond : Location) : Absolute) = .error fault := by
  obtain ⟨fault, failed⟩ := blank true beyond
  exact ⟨fault, by rw [status, failed]; rfl⟩

theorem blank_beyond (blank : Blank files place) (name : Segment) :
    Blank files (place ++ [name]) := by
  intro followLast beyond
  rw [List.append_assoc]
  exact blank followLast ([name] ++ beyond)

/-- Names beyond something missing are kept as they are written. -/
theorem lenient_past_blank (depth : Nat) (opened : List Location) (names : List Segment)
    (reached : Reached) (blank : Blank files place) (named : Names names)
    (followed : files.follow .lenient depth opened place names = .ok reached) :
    reached = .done (place ++ names) := by
  induction names generalizing place with
  | nil =>
      rw [follow_nil] at followed
      rw [List.append_nil]
      exact (Except.ok.inj followed).symm
  | cons name rest ih =>
      obtain ⟨isName, restNamed⟩ := List.forall_mem_cons.1 named
      have beyond := blank_beyond blank name
      obtain ⟨fault, entry⟩ := blank_link_target beyond
      rw [follow_name _ _ _ _ _ _ _ isName, followEntry] at followed
      cases fault with
      | nullCharacter => simp [targetFor, entry] at followed
      | system cause path =>
          have kept := ih beyond restNamed (by simpa [targetFor, entry] using followed)
          simpa using kept

theorem lenient_into_blank (depth : Nat) (opened : List Location) (name : Segment)
    (rest : List Segment) (reached : Reached) (blank : Blank files (place ++ [name]))
    (named : Names (name :: rest))
    (followed : files.follow .lenient depth opened place (name :: rest) = .ok reached) :
    reached = .done (place ++ name :: rest) := by
  obtain ⟨isName, restNamed⟩ := List.forall_mem_cons.1 named
  obtain ⟨fault, entry⟩ := blank_link_target blank
  rw [follow_name _ _ _ _ _ _ _ isName, followEntry] at followed
  cases fault with
  | nullCharacter => simp [targetFor, entry] at followed
  | system cause path =>
      have kept := lenient_past_blank depth opened rest reached blank restNamed
        (by simpa [targetFor, entry] using followed)
      simpa using kept

end StorefrontSurvey.Files
