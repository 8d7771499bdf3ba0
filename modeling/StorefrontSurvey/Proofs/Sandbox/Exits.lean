import StorefrontSurvey.Proofs.Files.Reach
import StorefrontSurvey.Sandbox.Sandbox
/-!
The ways in which a target is handed back: found, as a new entry of a directory that is there, or as
it is written where that directory is missing too. Everything that is said of targets starts from
here.
-/
namespace StorefrontSurvey.Sandbox

open StorefrontSurvey.Path (Chars Segment Location Absolute IsName Names)
open StorefrontSurvey.Files (Firm firm_top canonical_firm status_eq status_of_wrong_turn)

variable {files : Files} {root : Location} {target : String} {place : Absolute}

/-- How a place in a root is handed back. -/
inductive Exit (files : Files) (root : Location) (target : String) (place : Absolute) :
    Absolute → Prop
  | found {found : Location} (firm : Firm files found) (inside : isWithin found root = true) :
      Exit files root target place found
  | entry {before parent : Location} {name : Segment} {path : String}
      (split : place.location = before ++ [name])
      (missing : files.followFrom .strict [] place.location = .error (.system .missing path))
      (resolved : files.followFrom .strict [] before = .ok (.done parent))
      (firm : Firm files parent) (inside : isWithin parent root = true) :
      Exit files root target place (parent ++ [name] : Location)
  | unresolved {path : String} {fault : Files.Fault}
      (missing : files.followFrom .strict [] place.location = .error (.system .missing path))
      (parentFault : files.followFrom .strict [] place.location.dropLast = .error fault)
      (wrong : fault.isWrongTurn = true)
      (checked : checkAncestors files root target place.parents = .ok ()) :
      Exit files root target place place

theorem canonical_root_firm {rootPath : String}
    (usable : canonicalRoot files rootPath = .ok root) : Firm files root := by
  unfold canonicalRoot at usable
  split at usable
  · cases resolved : files.resolveStrict [] rootPath.toList with
    | ok found =>
        simp only [resolved, Except.ok.injEq] at usable
        exact usable ▸ Files.resolve_strict_firm (firm_top files) resolved
    | error unresolved =>
        rw [resolved] at usable
        split at usable <;> simp_all
  · cases usable

theorem unresolved_missing {fault : Files.Fault} {path : String}
    (same : Files.Unresolved.of fault = .blocked (.system .missing path)) :
    fault = .system .missing path := by
  cases fault with
  | nullCharacter => cases same
  | system cause other => cases cause <;> simp_all [Files.Unresolved.of]

theorem unresolved_not_directory {fault : Files.Fault} {path : String}
    (same : Files.Unresolved.of fault = .blocked (.system .notDirectory path)) :
    fault = .system .notDirectory path := by
  cases fault with
  | nullCharacter => cases same
  | system cause other => cases cause <;> simp_all [Files.Unresolved.of]

theorem resolve_strict_cases (files : Files) (path : Absolute) (names : Names path.location) :
    (∃ found, files.followFrom .strict [] path.location = .ok (.done found) ∧
        files.resolveStrict [] path.chars = .ok found) ∨
      ∃ fault, files.followFrom .strict [] path.location = .error fault ∧
        files.resolveStrict [] path.chars = .error (.of fault) := by
  rw [Files.resolve_strict_chars [] path names]
  cases followed : files.followFrom .strict [] path.location with
  | error fault => exact Or.inr ⟨fault, rfl, rfl⟩
  | ok reached =>
      obtain ⟨found, rfl⟩ := Files.strict_done _ _ _ (Path.names_slash_free names) reached
        followed
      exact Or.inl ⟨found, rfl, rfl⟩

theorem resolve_missing_exit {path : String} {result : Absolute}
    (names : Names place.location)
    (missing : files.followFrom .strict [] place.location = .error (.system .missing path))
    (resolved : resolveMissing files root place target = .ok result) :
    Exit files root target place result := by
  have parentNames : Names place.parent.location := fun name member =>
    names name (List.mem_of_mem_dropLast member)
  unfold resolveMissing at resolved
  rcases resolve_strict_cases files place.parent parentNames with
    ⟨parent, followed, strict⟩ | ⟨fault, followed, strict⟩
  · simp only [strict] at resolved
    split at resolved
    · rename_i inside
      cases resolved
      have present : place.location ≠ [] := by
        intro top
        rw [top, Files.follow_firm .strict (firm_top files)] at missing
        cases missing
      rw [List.getLast?_eq_some_getLast present]
      exact .entry (List.dropLast_append_getLast present).symm missing followed
        (canonical_firm parentNames followed) inside
    · cases resolved
  · simp only [strict] at resolved
    have checked (wrong : fault.isWrongTurn = true)
        (answer : (checkAncestors files root target place.parents).map (fun _ => place) =
          .ok result) : Exit files root target place result := by
      cases ancestors : checkAncestors files root target place.parents with
      | error other => simp [ancestors, Except.map] at answer
      | ok done =>
          rw [ancestors] at answer
          cases answer
          exact .unresolved missing followed wrong ancestors
    split at resolved
    · rename_i other same
      have cause := unresolved_missing (Except.error.inj same)
      exact checked (by rw [cause]; rfl) resolved
    · rename_i other same
      have cause := unresolved_not_directory (Except.error.inj same)
      exact checked (by rw [cause]; rfl) resolved
    · cases resolved
    · simp_all

/-- Whatever is handed back is handed back in one of the three ways. -/
theorem resolve_in_exit {result : Absolute}
    (resolved : resolveIn files root target = .ok result) :
    Exit files root target (Path.fromDirectory root target.toList) result := by
  have names := Path.from_directory_names root target.toList
  unfold resolveIn at resolved
  dsimp only at resolved
  split at resolved
  · cases resolved
  · rcases resolve_strict_cases files _ names with
      ⟨found, followed, strict⟩ | ⟨fault, followed, strict⟩
    · simp only [strict] at resolved
      split at resolved
      · rename_i inside
        cases resolved
        exact .found (canonical_firm names followed) inside
      · cases resolved
    · simp only [strict] at resolved
      split at resolved
      · rename_i same
        cases same
      · rename_i path same
        rw [unresolved_missing (Except.error.inj same)] at followed
        exact resolve_missing_exit names followed resolved
      · cases resolved

theorem resolve_in_of_usable {rootPath : String} (usable : canonicalRoot files rootPath = .ok root)
    (target : String) : resolve files rootPath target = resolveIn files root target := by
  simp only [resolve, usable, bind, Except.bind]

theorem resolve_exit {rootPath : String} {result : Absolute}
    (usable : canonicalRoot files rootPath = .ok root)
    (resolved : resolve files rootPath target = .ok result) :
    Exit files root target (Path.fromDirectory root target.toList) result := by
  rw [resolve_in_of_usable usable] at resolved
  exact resolve_in_exit resolved

theorem exit_names {result : Absolute} (names : Names place.location)
    (exit : Exit files root target place result) : Names result.location := by
  cases exit with
  | found firm inside => exact Files.standing_names firm.standing
  | entry split missing resolved firm inside =>
      rw [split] at names
      exact List.forall_mem_append.2
        ⟨Files.standing_names firm.standing, (List.forall_mem_append.1 names).2⟩
  | unresolved => exact names

/-- A new entry is as missing from its canonical directory as from the directory it is asked for
in. -/
theorem entry_missing {before parent : Location} {name : Segment} {path : String}
    (names : Names before) (firm : Firm files parent)
    (resolved : files.followFrom .strict [] before = .ok (.done parent))
    (missing : files.followFrom .strict [] (before ++ [name]) = .error (.system .missing path)) :
    files.followFrom .strict parent [name] = .error (.system .missing path) ∧
      files.followFrom .strict [] (parent ++ [name]) = .error (.system .missing path) := by
  have alone : files.followFrom .strict parent [name] = .error (.system .missing path) := by
    rw [← missing]
    exact (Files.follow_append_done .strict _ [] before [name] parent
      (Path.names_slash_free names) resolved).symm
  exact ⟨alone, by rw [← alone]; exact Files.follow_from_top .strict _ [] firm [name]⟩

/-- What is handed back stands in the root, or nothing can be asked of it. -/
theorem exit_status {result : Absolute} (names : Names place.location)
    (exit : Exit files root target place result) :
    (∃ found : Location, result = found ∧ Firm files found ∧ isWithin found root = true) ∨
      ∃ fault, files.status result = .error fault := by
  have resultNames := exit_names names exit
  cases exit with
  | @found found firm inside => exact Or.inl ⟨found, rfl, firm, inside⟩
  | entry split missing resolved firm inside =>
      rw [split] at names missing
      exact Or.inr (status_of_wrong_turn (Path.names_slash_free resultNames)
        (entry_missing (List.forall_mem_append.1 names).1 firm resolved missing).2 rfl)
  | unresolved missing =>
      exact Or.inr (status_of_wrong_turn (Path.names_slash_free resultNames) missing rfl)

/-! ### The nearest ancestor that is there -/

theorem top_leads_somewhere (doubled : Bool) :
    files.leadsSomewhere ⟨[], doubled⟩ = .ok true := by
  rw [Files.leadsSomewhere, status_eq _ (by simp [Path.SlashFree])]
  cases doubled <;> rfl

theorem status_of_somewhere {path : Absolute}
    (somewhere : files.leadsSomewhere path = .ok true) :
    ∃ node, files.status path = .ok node := by
  unfold Files.leadsSomewhere at somewhere
  split at somewhere <;> simp_all

theorem status_of_nowhere {path : Absolute}
    (nowhere : files.leadsSomewhere path = .ok false) :
    ∃ fault, files.status path = .error fault ∧ ∀ other, fault ≠ .system .nameTooLong other := by
  unfold Files.leadsSomewhere at nowhere
  split at nowhere <;> simp_all

theorem check_ancestors_cons {ancestor : Absolute} {above : List Absolute}
    (checked : checkAncestors files root target (ancestor :: above) = .ok ()) :
    (files.leadsSomewhere ancestor = .ok true ∧
        ∃ found, files.resolveLenient [] ancestor.chars = .ok found ∧
          isWithin found root = true) ∨
      (files.leadsSomewhere ancestor = .ok false ∧
        checkAncestors files root target above = .ok ()) := by
  rw [checkAncestors] at checked
  cases leads : files.leadsSomewhere ancestor with
  | error fault => simp [leads] at checked
  | ok somewhere =>
      cases somewhere with
      | false => exact Or.inr ⟨rfl, by simpa [leads] using checked⟩
      | true =>
          cases resolved : files.resolveLenient [] ancestor.chars with
          | error fault => simp [leads, resolved] at checked
          | ok found =>
              simp only [leads, resolved] at checked
              split at checked
              · rename_i inside
                exact Or.inl ⟨rfl, found, rfl, inside⟩
              · cases checked

/-- A check of the ancestors ends at the nearest one that leads somewhere. It lies in the root, and
what comes after it leads nowhere, unless that is the place itself. -/
theorem check_ancestors_nearest (depth : Nat) (place : Absolute)
    (length : place.location.length = depth + 1)
    (checked : checkAncestors files root target (place.above (depth + 1)) = .ok ()) :
    ∃ before name rest found, place.location = before ++ name :: rest ∧
      files.leadsSomewhere ⟨before, place.doubled⟩ = .ok true ∧
      files.resolveLenient [] (⟨before, place.doubled⟩ : Absolute).chars = .ok found ∧
      isWithin found root = true ∧
      (rest ≠ [] → files.leadsSomewhere ⟨before ++ [name], place.doubled⟩ = .ok false) := by
  induction depth generalizing place with
  | zero =>
      obtain ⟨name, only⟩ := List.length_eq_one_iff.1 length
      have top : place.parent = ⟨[], place.doubled⟩ := by simp [Absolute.parent, only]
      rw [Absolute.above, top] at checked
      rcases check_ancestors_cons checked with ⟨leads, found, resolved, inside⟩ | ⟨leads, _⟩
      · exact ⟨[], name, [], found, only, leads, resolved, inside, absurd rfl⟩
      · rw [top_leads_somewhere] at leads
        cases leads
  | succ depth ih =>
      have present : place.location ≠ [] := by
        intro empty
        simp [empty] at length
      obtain ⟨early, last, whole⟩ : ∃ early last, place.location = early ++ [last] :=
        ⟨_, _, (List.dropLast_append_getLast present).symm⟩
      have parent : place.parent = ⟨early, place.doubled⟩ := by simp [Absolute.parent, whole]
      rw [Absolute.above, parent] at checked
      rcases check_ancestors_cons checked with ⟨leads, found, resolved, inside⟩ | ⟨leads, above⟩
      · exact ⟨early, last, [], found, whole, leads, resolved, inside, absurd rfl⟩
      · obtain ⟨before, name, rest, found, parts, led, resolved, inside, nowhere⟩ :=
          ih ⟨early, place.doubled⟩ (by simpa [whole] using length) above
        have parted : early = before ++ name :: rest := parts
        refine ⟨before, name, rest ++ [last], found, ?_, led, resolved, inside, fun _ => ?_⟩
        · rw [whole, parted]
          simp
        · by_cases nearest : rest = []
          · rwa [parted, nearest] at leads
          · exact nowhere nearest

end StorefrontSurvey.Sandbox
