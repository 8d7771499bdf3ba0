import StorefrontSurvey.Proofs.Sandbox.Containment
/-!
What is handed back, asked for again. It is its own place, so the second answer is the first one
unless the gate stops it. The gate reads backslashes as slashes: where a link led to a name in which
`..` stands between backslashes, the path that was handed back is refused for its segments. It is
never taken for another place.
-/
namespace StorefrontSurvey.Sandbox

open StorefrontSurvey.Path (Chars Segment Location Absolute IsName Names leadingSlashes)
open StorefrontSurvey.Files (Firm)

variable {files : Files} {root : Location} {rootPath target : String} {place : Absolute}

/-! ### A path as a target -/

/-- A path that starts at the top is the same from every directory. -/
theorem from_directory_text (directory : Location) (names : Names place.location) :
    Path.fromDirectory directory place.text.toList = place := by
  have whole : Path.joined directory place.chars = place.chars := by
    rw [Path.joined, if_pos (Path.chars_head place)]
  obtain ⟨blanks, blank, parts⟩ := Path.split_chars place names
  have slashes : decide (leadingSlashes place.chars = 2) = place.doubled := by
    rw [Path.leading_slashes_chars place names]
    cases place.doubled <;> rfl
  rw [Path.fromDirectory, Path.text_chars, whole, parts, Path.collapse_blanks true blanks _ blank,
    Path.collapse_of_names true names, slashes]

theorem stays_in_same {other : String}
    (same : (Path.fromDirectory root other.toList).location =
      (Path.fromDirectory root target.toList).location) (stays : StaysIn root target) :
    StaysIn root other := by
  rw [StaysIn, same]
  exact stays

/-! ### Each way of handing back, again -/

theorem resolve_in_firm {found : Location} (stays : StaysIn root target) (firm : Firm files found)
    (same : Path.fromDirectory root target.toList = found) (inside : isWithin found root = true) :
    resolveIn files root target = .ok found := by
  have passes : Path.climbsOut (String.ofList
      (Path.wayFrom root (Path.fromDirectory root target.toList).location)) = false := stays
  rw [resolveIn, passes, if_neg Bool.false_ne_true, same, Files.resolve_strict_of_firm [] firm]
  exact if_pos inside

theorem resolve_missing_entry {parent : Location} {name : Segment} (firm : Firm files parent)
    (inside : isWithin parent root = true) :
    resolveMissing files root ((parent ++ [name] : Location) : Absolute) target =
      .ok (parent ++ [name] : Location) := by
  have up : ((parent ++ [name] : Location) : Absolute).parent = (parent : Absolute) := by
    simp [Absolute.parent]
  rw [resolveMissing, up, Files.resolve_strict_of_firm [] firm]
  simp [inside]

/-- Whether the ancestors pass is the same for every target: it is only named in a refusal. -/
theorem check_ancestors_any (other : String) (above : List Absolute)
    (checked : checkAncestors files root target above = .ok ()) :
    checkAncestors files root other above = .ok () := by
  induction above with
  | nil => rfl
  | cons ancestor above ih =>
      rw [checkAncestors]
      rcases check_ancestors_cons checked with ⟨leads, found, resolved, inside⟩ | ⟨leads, further⟩
      · rw [leads, resolved]
        exact if_pos inside
      · rw [leads]
        exact ih further

theorem exit_again {result : Absolute} (names : Names place.location)
    (exit : Exit files root target place result) (stays : StaysIn root result.text) :
    resolveIn files root result.text = .ok result := by
  have same := from_directory_text root (exit_names names exit)
  cases exit with
  | found firm inside => exact resolve_in_firm stays firm same inside
  | @entry before parent name path split missing resolved firm inside =>
      rw [split] at names missing
      have again := (entry_missing (List.forall_mem_append.1 names).1 firm resolved missing).2
      rw [resolve_in_missing stays (by rw [same]; exact again), same]
      exact resolve_missing_entry firm inside
  | unresolved missing parentFault wrong checked =>
      obtain rfl := parent_fault names missing parentFault
      rw [resolve_in_missing stays (by rw [same]; exact missing), same,
        resolve_missing_up names parentFault, check_ancestors_any place.text _ checked]
      rfl

/-! ### The gate, again -/

theorem exit_below {result : Absolute} (rootNames : Names root) (names : Names place.location)
    (below : root <+: place.location) (exit : Exit files root target place result) :
    root <+: result.location := by
  have resultNames := exit_names names exit
  cases exit with
  | found firm inside => exact (Path.is_within_iff _ _ resultNames rootNames).1 inside
  | entry split missing resolved firm inside =>
      have parentNames := (List.forall_mem_append.1 resultNames).1
      have within := (Path.is_within_iff _ _ parentNames rootNames).1 inside
      exact within.trans (List.prefix_append _ _)
  | unresolved => exact below

/-- A place below the root passes the gate if no name that leads to it from there holds a
backslash. -/
theorem stays_in_of_free (names : Names place.location) (below : root <+: place.location)
    (free : ∀ name ∈ place.location.drop root.length, '\\' ∉ name) : StaysIn root place.text := by
  obtain ⟨rest, whole⟩ := below
  rw [← whole, List.drop_left] at free
  rw [StaysIn, from_directory_text root names]
  rw [← whole] at names ⊢
  rw [Path.way_from_below]
  exact Path.climbs_out_below (List.forall_mem_append.1 names).2 free

/-- What is handed back is handed back again exactly if it passes the gate. Otherwise it is refused
for its segments, before any file is looked at. It passes if it lies where the target was written to
lie, and also if no name that leads to it from the root holds a backslash. -/
theorem handed_back_again_iff (usable : canonicalRoot files rootPath = .ok root)
    (resolved : resolve files rootPath target = .ok place) :
    (resolve files rootPath place.text = .ok place ↔ StaysIn root place.text) ∧
    (¬StaysIn root place.text →
      resolve files rootPath place.text = .error (.escape (.bySegments place.text place))) ∧
    (place.location = (Path.fromDirectory root target.toList).location ∨
        (∀ name ∈ place.location.drop root.length, '\\' ∉ name) →
      StaysIn root place.text) := by
  have given := Path.from_directory_names root target.toList
  have exit := resolve_exit usable resolved
  have names := exit_names given exit
  have same := from_directory_text root names
  rw [resolve_in_of_usable usable] at resolved
  have stays := stays_in_of_resolved resolved
  have below := exit_below (canonical_root_names usable) given (below_of_stays_in stays) exit
  rw [resolve_in_of_usable usable]
  refine ⟨⟨stays_in_of_resolved, exit_again given exit⟩, ?_, ?_⟩
  · intro outside
    rw [resolve_in_stopped outside, same]
  · rintro (asWritten | free)
    · exact stays_in_same (by rw [same, asWritten]) stays
    · exact stays_in_of_free names below free

/-- A file, and a link to it by its name. -/
def linkedName (name : String) : Files :=
  ⟨[([['r']], .directory none), ([['r'], name.toList], .file [] 0),
    ([['r'], ['l']], .link name.toList)]⟩

/-- The file that a link leads to is handed back again, although there are backslashes in its name:
they go up no further than down. -/
theorem linked_name_again :
    let files := linkedName "a\\..\\b"
    let place : Absolute := ([['r'], "a\\..\\b".toList] : Location)
    canonicalRoot files "/r" = .ok [['r']] ∧ resolve files "/r" "l" = .ok place ∧
      resolve files "/r" place.text = .ok place := by
  intro files place
  have usable : canonicalRoot files "/r" = .ok [['r']] := by decide +kernel +revert
  have resolved : resolve files "/r" "l" = .ok place := by decide +kernel +revert
  have stays : StaysIn [['r']] place.text := by
    unfold StaysIn
    decide +kernel +revert
  exact ⟨usable, resolved, (handed_back_again_iff usable resolved).1.2 stays⟩

/-- The file that a link leads to is refused when it is asked for by the path that was handed back. -/
theorem linked_name_refused :
    canonicalRoot (linkedName "a\\..\\..\\b") "/r" = .ok [['r']] ∧
      resolve (linkedName "a\\..\\..\\b") "/r" "l" =
        .ok ([['r'], "a\\..\\..\\b".toList] : Location) ∧
      resolve (linkedName "a\\..\\..\\b") "/r" "/r/a\\..\\..\\b" =
        .error (.escape (.bySegments "/r/a\\..\\..\\b"
          ([['r'], "a\\..\\..\\b".toList] : Location))) := by
  decide +kernel

end StorefrontSurvey.Sandbox
