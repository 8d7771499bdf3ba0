import StorefrontSurvey.Proofs.Sandbox.Faults
/-!
Texts that are not read because of a null character. One is met on the way of the target or stands in
what is handed back for it, and it comes from the target itself or from a link. All else that keeps a
text from being read is an escape or an obstacle.
-/
namespace StorefrontSurvey.Sandbox

open StorefrontSurvey.Path (Chars Segment Location Absolute IsName Names SlashFree)
open StorefrontSurvey.Files (Firm barred? status_eq)

variable {files : Files} {root : Location} {rootPath target : String} {place : Absolute}

/-- A null character is met on the way of a target, or it stands in what is handed back. -/
def MeetsNull (files : Files) (root : Location) (target : String) : Prop :=
  (StaysIn root target ∧
      files.followFrom .strict [] (Path.fromDirectory root target.toList).location =
        .error .nullCharacter) ∨
    ∃ found, resolveIn files root target = .ok found ∧ '\x00' ∈ found.chars

/-! ### What keeps a text from being read -/

theorem status_null_iff :
    files.status place = .error .nullCharacter ↔ '\x00' ∈ place.chars := by
  unfold Files.status Files.locate
  by_cases null : '\x00' ∈ place.chars
  · simp [null, bind, Except.bind]
  · by_cases long : Files.longestPath < Files.byteLength place.chars
    · simp [null, long, bind, Except.bind]
    · cases files.walk true Files.mostLinks [] place.location with
      | error cause => simp [null, long, bind, Except.bind]
      | ok last =>
          cases stands : files.node? last <;>
            simp [null, long, bind, Except.bind, stands, pure, Except.pure, throw, throwThe,
              MonadExceptOf.throw]

theorem content_null_iff :
    files.content place = .error .nullCharacter ↔ '\x00' ∈ place.chars := by
  rw [← status_null_iff]
  unfold Files.content
  cases files.status place with
  | error fault => simp [bind, Except.bind]
  | ok node =>
      cases node <;>
        simp [bind, Except.bind, pure, Except.pure, throw, throwThe, MonadExceptOf.throw]

/-- What has a snag is blocked, or it meets a null character. -/
theorem snag_fault {fault : Fault} (snag : Snag files place fault) :
    (∃ obstacle, fault = .blocked obstacle) ∨
      (fault = .refused .nullCharacter ∧
        files.followFrom .strict [] place.location = .error .nullCharacter) := by
  cases snag with
  | tooLong => exact Or.inl ⟨_, rfl⟩
  | @onWay other failed _ =>
      cases other with
      | nullCharacter => exact Or.inr ⟨rfl, failed⟩
      | system cause path => cases cause <;> exact Or.inl ⟨_, rfl⟩

theorem read_text_found {found : Absolute} (resolved : resolve files rootPath target = .ok found) :
    (∃ text, readText files rootPath target = .ok text) ∨
      (∃ obstacle, readText files rootPath target = .error (.blocked obstacle)) ∨
      (readText files rootPath target = .error (.refused .nullCharacter) ∧
        '\x00' ∈ found.chars) := by
  simp only [readText, resolved, bind, Except.bind]
  cases read : files.content found with
  | error fault =>
      cases fault with
      | system cause path => exact Or.inr (Or.inl ⟨_, rfl⟩)
      | nullCharacter => exact Or.inr (Or.inr ⟨rfl, content_null_iff.1 read⟩)
  | ok bytes =>
      dsimp only
      cases Text.ofBytes bytes with
      | error fault => exact Or.inr (Or.inl ⟨_, rfl⟩)
      | ok text => exact Or.inl ⟨text, rfl⟩

theorem read_text_not_found {fault : Fault} (failed : resolve files rootPath target = .error fault) :
    readText files rootPath target = .error fault := by
  simp only [readText, failed, bind, Except.bind]

/-- A text is read, or an obstacle is in the way, or its target leads out of the root, or a null
character is met. -/
theorem read_text_cases (usable : canonicalRoot files rootPath = .ok root) (target : String) :
    (∃ text, readText files rootPath target = .ok text) ∨
      (∃ obstacle, readText files rootPath target = .error (.blocked obstacle)) ∨
      (∃ escape, resolve files rootPath target = .error (.escape escape) ∧
        readText files rootPath target = .error (.escape escape)) ∨
      (readText files rootPath target = .error (.refused .nullCharacter) ∧
        MeetsNull files root target) := by
  cases resolved : resolve files rootPath target with
  | ok found =>
      rcases read_text_found resolved with read | blocked | ⟨refused, null⟩
      · exact Or.inl read
      · exact Or.inr (Or.inl blocked)
      · rw [resolve_in_of_usable usable] at resolved
        exact Or.inr (Or.inr (Or.inr ⟨refused, Or.inr ⟨found, resolved, null⟩⟩))
  | error fault =>
      rw [read_text_not_found resolved]
      rw [resolve_in_of_usable usable] at resolved
      rcases resolve_in_fault resolved with ⟨escape, rfl⟩ | ⟨stays, snag⟩
      · exact Or.inr (Or.inr (Or.inl ⟨escape, rfl, rfl⟩))
      · rcases snag_fault snag with ⟨obstacle, rfl⟩ | ⟨rfl, met⟩
        · exact Or.inr (Or.inl ⟨obstacle, rfl⟩)
        · exact Or.inr (Or.inr (Or.inr ⟨rfl, Or.inl ⟨stays, met⟩⟩))

theorem read_text_null_iff (usable : canonicalRoot files rootPath = .ok root) :
    readText files rootPath target = .error (.refused .nullCharacter) ↔
      MeetsNull files root target := by
  constructor
  · intro refused
    rcases read_text_cases usable target with
      ⟨text, read⟩ | ⟨obstacle, blocked⟩ | ⟨escape, _, escaped⟩ | ⟨_, met⟩
    · rw [refused] at read
      cases read
    · rw [refused] at blocked
      cases blocked
    · rw [refused] at escaped
      cases escaped
    · exact met
  · rintro (⟨stays, met⟩ | ⟨found, resolved, null⟩)
    · have denied : resolveIn files root target = _ := resolve_in_on_way stays met (by simp)
      rw [← resolve_in_of_usable usable] at denied
      exact read_text_not_found denied
    · rw [← resolve_in_of_usable usable] at resolved
      simp only [readText, resolved, bind, Except.bind, content_null_iff.2 null]
      rfl

/-! ### Where a null character comes from -/

def NullFree (segments : List Segment) : Prop := ∀ segment ∈ segments, '\x00' ∉ segment

/-- No link aims at a path that holds a null character. -/
def LinksNullFree (files : Files) : Prop :=
  ∀ link aim, files.node? link = some (.link aim) → '\x00' ∉ aim

theorem firm_null_free {location : Location} (firm : Firm files location) : NullFree location :=
  Files.no_null (firm.askable location (List.prefix_refl _))

theorem split_null_free {path : Chars} (free : '\x00' ∉ path) : NullFree (Path.splitSlash path) :=
  fun _ member null => free (Path.mem_of_mem_split member null)

theorem not_barred_null {location : Location} (free : NullFree location) :
    barred? (location : Absolute) ≠ some .nullCharacter := by
  intro bar
  obtain ⟨name, member, null⟩ := Files.null_in_name bar
  exact free name member null

theorem on_loop_not_null {link : Location} (rest : List Segment) (free : NullFree link) :
    files.onLoop .strict link rest ≠ .error .nullCharacter := by
  intro loop
  have asked : files.status (link : Absolute) ≠ .error .nullCharacter := by
    rw [Ne, status_null_iff, Path.mem_chars _ (by decide)]
    rintro ⟨name, member, null⟩
    exact free name member null
  unfold Files.onLoop at loop
  cases shown : files.status (link : Absolute) with
  | error fault =>
      simp only [shown, Except.error.injEq] at loop
      exact asked (by rw [shown, loop])
  | ok node => simp [shown] at loop

theorem link_target_not_null {location : Location} {name : Segment} (firm : Firm files location)
    (isName : IsName name) (free : NullFree (location ++ [name])) :
    files.linkTarget? ((location ++ [name] : Location) : Absolute) ≠ .error .nullCharacter := by
  rw [Files.link_target_eq firm.standing isName]
  cases bar : barred? ((location ++ [name] : Location) : Absolute) with
  | some fault =>
      rintro same
      rw [Except.error.inj same] at bar
      exact not_barred_null free bar
  | none => cases files.turn location name <;> simp

theorem link_target_stands {path : Absolute} {aim : Chars}
    (linked : files.linkTarget? path = .ok (some aim)) :
    ∃ link, files.node? link = some (.link aim) := by
  unfold Files.linkTarget? at linked
  cases located : files.locate false path with
  | error fault => simp [located, bind, Except.bind] at linked
  | ok link =>
      refine ⟨link, ?_⟩
      simp only [located, bind, Except.bind] at linked
      split at linked
      · rename_i stands
        cases linked
        exact stands
      · cases linked

theorem bind_not_null {Found Next : Type} {outcome : Except Files.Fault Found}
    {onward : Found → Except Files.Fault Next} (first : outcome ≠ .error .nullCharacter)
    (second : ∀ found, outcome = .ok found → onward found ≠ .error .nullCharacter) :
    (outcome >>= onward) ≠ .error .nullCharacter := by
  cases outcome with
  | error fault =>
      rintro same
      exact first (by rw [Except.error.inj same])
  | ok found => exact second found rfl

/-- Strict resolution of names without null characters meets one only in a link. -/
theorem strict_not_null (links : LinksNullFree files) (depth : Nat) (opened : List Location)
    (start : Location) (names : List Segment) (slashFree : SlashFree names)
    (firm : Firm files start) (free : NullFree names) :
    files.follow .strict depth opened start names ≠ .error .nullCharacter := by
  induction depth, opened, start, names, slashFree using Files.follow_induction with
  | nil depth opened place => simp [Files.follow_nil]
  | skip depth opened place name rest _ _ skipped ih =>
      rw [Files.follow_skip _ _ _ _ _ _ _ skipped]
      exact ih firm (List.forall_mem_cons.1 free).2
  | up depth opened place rest _ _ ih =>
      rw [Files.follow_up]
      exact ih (Files.firm_up firm) (List.forall_mem_cons.1 free).2
  | entry depth opened place name rest _ _ isName ih deeper =>
      obtain ⟨nameFree, restFree⟩ := List.forall_mem_cons.1 free
      have entryFree : NullFree (place ++ [name]) :=
        List.forall_mem_append.2 ⟨firm_null_free firm, by simpa using nameFree⟩
      rw [Files.follow_name _ _ _ _ _ _ _ isName, Files.followEntry, Files.target_strict]
      cases entry : files.linkTarget? ((place ++ [name] : Location) : Absolute) with
      | error fault =>
          rintro same
          exact link_target_not_null firm isName entryFree (by rw [entry, Except.error.inj same])
      | ok target? =>
          cases target? with
          | none => exact ih _ (Files.firm_into firm isName entry) restFree
          | some aim =>
              obtain ⟨link, stands⟩ := link_target_stands entry
              dsimp only
              split
              · exact on_loop_not_null rest entryFree
              · cases depth with
                | zero =>
                    refine bind_not_null (on_loop_not_null [] entryFree) fun inner led => ?_
                    obtain ⟨fault, loop⟩ := Files.on_loop_strict files (place ++ [name]) []
                    rw [Files.followLink, loop] at led
                    cases led
                | succ fewer =>
                    have startFirm := Files.start_firm firm aim
                    have startFree := Files.start_slash_free place aim
                    have aimFree := split_null_free (links link aim stands)
                    rw [Files.followLink, List.dropLast_concat]
                    refine bind_not_null ?_ fun inner led => ?_
                    · exact deeper fewer _ _ _ startFree (Nat.lt_succ_self fewer) startFirm aimFree
                    · obtain ⟨middle, rfl⟩ := Files.strict_done _ _ _ startFree inner led
                      exact ih middle (Files.strict_firm _ _ _ middle startFirm startFree led)
                        restFree

theorem from_directory_null_free (firm : Firm files root) (free : '\x00' ∉ target.toList) :
    NullFree (Path.fromDirectory root target.toList).location := by
  have rootFree : '\x00' ∉ (root : Absolute).chars := by
    rw [Path.mem_chars _ (by decide)]
    rintro ⟨name, member, null⟩
    exact firm_null_free firm name member null
  have joinedFree : '\x00' ∉ Path.joined root target.toList := by
    unfold Path.joined
    split
    · exact free
    · split <;> simp_all
  exact fun name member => split_null_free joinedFree name (Path.mem_collapse member).1

theorem found_null_free {found : Absolute} (free : NullFree place.location)
    (exit : Exit files root target place found) : NullFree found.location := by
  cases exit with
  | found firm _ => exact firm_null_free firm
  | entry split _ _ firm _ =>
      rw [split] at free
      exact List.forall_mem_append.2 ⟨firm_null_free firm, (List.forall_mem_append.1 free).2⟩
  | unresolved => exact free

/-- Only a target that holds a null character meets one, as long as no link does. -/
theorem null_met_in_target (links : LinksNullFree files) (firm : Firm files root)
    (met : MeetsNull files root target) : '\x00' ∈ target.toList := by
  by_contra free
  have placeFree := from_directory_null_free firm free
  rcases met with ⟨_, onWay⟩ | ⟨found, resolved, null⟩
  · exact strict_not_null links _ [] [] _
      (Path.names_slash_free (Path.from_directory_names root target.toList))
      (Files.firm_top files) placeFree onWay
  · obtain ⟨name, member, within⟩ := (Path.mem_chars found (by decide)).1 null
    exact found_null_free placeFree (resolve_in_exit resolved) name member within

end StorefrontSurvey.Sandbox
