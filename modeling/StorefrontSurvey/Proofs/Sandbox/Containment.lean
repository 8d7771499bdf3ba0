import StorefrontSurvey.Proofs.Sandbox.LexicalGate
/-!
What is handed back, as it is written. It starts at the top and has no `.` or `..` component, and it
passes the test of lying within the root. The test is one of texts: a path with two slashes in front
never passes it below a root other than the top. Such a path is handed back where a target is written
so and its directory is missing, and only there.
-/
namespace StorefrontSurvey.Sandbox

open StorefrontSurvey.Path (Chars Segment Location Absolute IsName Names joinSlash leadingSlashes)

variable {files : Files} {root : Location} {rootPath target : String} {place : Absolute}

/-! ### Two slashes in front -/

theorem location_head {location : Location} (names : Names location) (rest : Chars) :
    (joinSlash location ++ '/' :: rest).head? = some '/' ↔ location = [] := by
  cases location with
  | nil => simp [joinSlash]
  | cons first more =>
      have filled : joinSlash (first :: more) ≠ [] :=
        Path.join_ne_nil (by simp) fun segment member => (names segment member).ne_nil
      have head := Path.join_head_ne_slash names (by simp)
      rw [List.head?_append_of_ne_nil _ filled]
      simpa using head

/-- Only a target from the top can be written with two slashes in front. -/
theorem from_directory_doubled (names : Names root) (target : Chars) :
    (Path.fromDirectory root target).doubled = true ↔ leadingSlashes target = 2 := by
  have written : (Path.fromDirectory root target).doubled = true ↔
      leadingSlashes (Path.joined root target) = 2 := decide_eq_true_iff
  rw [written, Path.joined]
  split_ifs with top empty
  · rfl
  · obtain ⟨relative, rooted⟩ := Path.leading_slashes_of_head top
    simp [relative, rooted]
  · have present : root ≠ [] := by simpa using empty
    have text : (root : Absolute).chars ++ '/' :: target =
        '/' :: (joinSlash root ++ '/' :: target) := rfl
    have front := (location_head names target).not.2 present
    rw [text, (Path.leading_slashes_of_head front).2, (Path.leading_slashes_of_head top).1]
    simp

/-- Below a root other than the top, no path with two slashes in front passes the test. -/
theorem doubled_within_iff (names : Names root) (location : Location) :
    (⟨location, true⟩ : Absolute).isWithin root = true ↔ root = [] := by
  have written : (⟨location, true⟩ : Absolute).chars = '/' :: '/' :: joinSlash location := rfl
  have differs : ((⟨location, true⟩ : Absolute) == (root : Absolute)) = false := by simp
  rw [Absolute.isWithin, differs, Bool.false_or, written]
  by_cases top : root = []
  · simp [top, Absolute.chars, joinSlash]
  · have rooted : (root : Absolute).chars = '/' :: joinSlash root := rfl
    have last : (root : Absolute).chars.getLast? ≠ some '/' := by
      rw [rooted]
      exact Path.join_last_ne_slash root names top
    rw [if_neg last, rooted]
    have front := (location_head names []).not.2 top
    obtain ⟨c, rest, text⟩ : ∃ c rest, joinSlash root ++ ['/'] = c :: rest :=
      List.exists_cons_of_ne_nil (by simp)
    rw [text] at front
    have other : c ≠ '/' := by simpa using front
    simp [text, other, top]

/-- A path with one slash in front passes the test exactly if its names go on from the root's. -/
theorem single_within_iff (rootNames : Names root) (names : Names place.location)
    (single : place.doubled = false) :
    place.isWithin root = true ↔ root <+: place.location := by
  have plain : place = (place.location : Absolute) := by rw [← single]
  rw [plain]
  exact Path.is_within_iff place.location root names rootNames

/-! ### Targets -/

theorem stays_in_of_resolved {result : Absolute} (resolved : resolveIn files root target = .ok result) :
    StaysIn root target := by
  by_contra outside
  rw [resolve_in_stopped outside] at resolved
  cases resolved

/-- A target is handed back as it is written if its directory is not there. -/
theorem handed_back_as_written {result : Absolute} {fault : Files.Fault}
    (resolved : resolveIn files root target = .ok result)
    (parentFault : files.followFrom .strict []
      (Path.fromDirectory root target.toList).location.dropLast = .error fault) :
    result = Path.fromDirectory root target.toList := by
  have names := Path.from_directory_names root target.toList
  have stays := stays_in_of_resolved resolved
  generalize whole : Path.fromDirectory root target.toList = place at names parentFault ⊢
  obtain ⟨last, parts⟩ : place.location.dropLast <+: place.location := List.dropLast_prefix _
  have failed : files.followFrom .strict [] place.location = .error fault := by
    rw [← parts]
    exact Files.follow_append_error .strict _ [] _ last fault
      (Path.names_slash_free (parent_names names)) parentFault
  by_cases other : ∀ path, fault ≠ .system .missing path
  · rw [← whole] at failed
    rw [resolve_in_on_way stays failed other] at resolved
    cases resolved
  · simp only [ne_eq, not_forall, not_not] at other
    obtain ⟨path, rfl⟩ := other
    rw [resolve_in_missing stays (by rw [whole]; exact failed), whole,
      resolve_missing_up names parentFault] at resolved
    cases checked : checkAncestors files root target place.parents with
    | error fault => simp [checked, Except.map] at resolved
    | ok done =>
        rw [checked] at resolved
        exact (Except.ok.inj resolved).symm

/-- A target whose directory is there is handed back with its links followed, and so with one slash in
front. -/
theorem handed_back_resolved {result : Absolute} {parent : Location}
    (resolved : resolveIn files root target = .ok result)
    (parentFound : files.followFrom .strict []
      (Path.fromDirectory root target.toList).location.dropLast = .ok (.done parent))
    (rootNames : Names root) : result.isWithin root = true := by
  have names := Path.from_directory_names root target.toList
  have exit := resolve_in_exit resolved
  have resultNames := exit_names names exit
  cases exit with
  | found firm inside => exact inside
  | entry split missing found firm inside => exact Path.within_append _ resultNames rootNames inside
  | unresolved missing parentFault wrong checked =>
      rw [parentFound] at parentFault
      cases parentFault

/-- A target is written with two slashes in front, not one or more, and its directory is not there. -/
structure DoubledInMissing (files : Files) (root : Location) (target : String) : Prop where
  doubled : leadingSlashes target.toList = 2
  missing : ∃ unresolved, files.resolveStrict []
    (Path.fromDirectory root target.toList).parent.chars = .error unresolved

theorem resolved_within_iff (rootNames : Names root)
    (resolved : resolveIn files root target = .ok place) :
    place.isWithin root = true ↔ root = [] ∨ ¬DoubledInMissing files root target := by
  have names := Path.from_directory_names root target.toList
  rcases resolve_strict_cases files _ (parent_names names) with
    ⟨parent, followed, strict⟩ | ⟨fault, followed, strict⟩
  · have inside := handed_back_resolved resolved followed rootNames
    refine iff_of_true inside (Or.inr ?_)
    rintro ⟨_, unresolved, failed⟩
    rw [strict] at failed
    cases failed
  · have written := handed_back_as_written resolved followed
    have below := below_of_stays_in (stays_in_of_resolved resolved)
    have missing : DoubledInMissing files root target ↔ place.doubled = true := by
      rw [written, from_directory_doubled rootNames]
      exact ⟨fun both => both.doubled, fun doubled => ⟨doubled, _, strict⟩⟩
    rw [← written] at below names
    rw [missing]
    cases single : place.doubled with
    | true =>
        have doubled : place = ⟨place.location, true⟩ := by rw [← single]
        rw [doubled, doubled_within_iff rootNames]
        simp
    | false => simp [single_within_iff rootNames names single, below]

theorem component_of_names (names : Names place.location) {component : Segment}
    (member : component ∈ Path.splitSlash place.chars) :
    component ≠ Path.dot ∧ component ≠ Path.dotDot := by
  obtain ⟨blanks, blank, parts⟩ := Path.split_chars place names
  rw [parts] at member
  rcases List.mem_append.1 member with empty | name
  · rw [blank component empty]
    exact ⟨by decide, by decide⟩
  · exact ⟨(names component name).ne_dot, (names component name).ne_dotDot⟩

/-- What is handed back starts at the top, has no component that stands for a directory or the one
above it, and passes the test of lying within the root, unless the root is not the top, the target is
written with two slashes in front and its directory is missing. -/
theorem handed_back_within_iff (usable : canonicalRoot files rootPath = .ok root)
    (resolved : resolve files rootPath target = .ok place) :
    Path.isAbsolute place.text = true ∧
    (∀ component ∈ Path.splitSlash place.text.toList,
      component ≠ Path.dot ∧ component ≠ Path.dotDot) ∧
    (place.isWithin root = true ↔ root = [] ∨ ¬DoubledInMissing files root target) := by
  have rootNames := canonical_root_names usable
  have names := exit_names (Path.from_directory_names root target.toList)
    (resolve_exit usable resolved)
  rw [resolve_in_of_usable usable] at resolved
  have text : place.text.toList = place.chars := String.toList_ofList
  refine ⟨?_, ?_, resolved_within_iff rootNames resolved⟩
  · simp [Path.isAbsolute, text, Path.chars_head]
  · intro component member
    rw [text] at member
    exact component_of_names names member

/-- Something missing in a missing directory is handed back within the root. -/
theorem missing_chain_within :
    canonicalRoot onlyDirectory "/r" = .ok [['r']] ∧
      resolve onlyDirectory "/r" "a/b" = .ok ([['r'], ['a'], ['b']] : Location) ∧
      (([['r'], ['a'], ['b']] : Location) : Absolute).isWithin [['r']] = true := by
  have usable : canonicalRoot onlyDirectory "/r" = .ok [['r']] := by decide +kernel
  have resolved : resolve onlyDirectory "/r" "a/b" = .ok ([['r'], ['a'], ['b']] : Location) := by
    decide +kernel
  refine ⟨usable, resolved, (handed_back_within_iff usable resolved).2.2.2 (Or.inr ?_)⟩
  rintro ⟨doubled, _⟩
  revert doubled
  decide

/-- The same target from the top, with one slash more in front, is handed back as it is written, and
does not pass the test. -/
theorem doubled_slash_outside :
    canonicalRoot onlyDirectory "/r" = .ok [['r']] ∧
      resolve onlyDirectory "/r" "//r/a/b" = .ok ⟨[['r'], ['a'], ['b']], true⟩ ∧
      (⟨[['r'], ['a'], ['b']], true⟩ : Absolute).isWithin [['r']] = false := by
  decide +kernel

end StorefrontSurvey.Sandbox
