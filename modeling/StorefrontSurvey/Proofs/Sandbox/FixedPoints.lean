import StorefrontSurvey.Proofs.Sandbox.Containment
/-!
Canonical paths are fixed points. What strict resolution comes to stands where it is written, with no
link on the way, so to resolve it once more changes nothing. The canonical root is such a path, and so
is whatever is handed back for a target that is there. A root may therefore be given by its canonical
path just as well.
-/
namespace StorefrontSurvey.Sandbox

open StorefrontSurvey.Path (Chars Segment Location Absolute Names)
open StorefrontSurvey.Files (Firm canonical_firm)

variable {files : Files} {root found : Location} {rootPath target : String} {place : Absolute}

/-- A path that shows what stands at its own names, and on whose way there is no link. -/
structure Canonical (files : Files) (path : Absolute) : Prop where
  stands : ∃ node, files.status path = .ok node ∧ files.node? path.location = some node
  components : ∀ component ∈ Path.splitSlash path.text.toList,
    component ≠ Path.dot ∧ component ≠ Path.dotDot
  unlinked : ∀ early, early <+: path.location → ∀ target, files.node? early ≠ some (.link target)
  /-- Strict resolution gives the path itself, from whatever directory it is taken. -/
  fixed : ∀ directory, (files.resolveStrict directory path.text.toList).map
    (fun place => (place : Absolute)) = .ok path

theorem canonical_of_firm (firm : Firm files found) : Canonical files found where
  stands := by
    obtain ⟨node, stands, shown⟩ := Files.firm_status firm
    exact ⟨node, shown, stands⟩
  components component member := by
    rw [Path.text_chars] at member
    exact component_of_names (Files.standing_names firm.standing) member
  unlinked early before target linked := by
    obtain ⟨node, stands, notLink⟩ :=
      Files.standing_node (Files.firm_before firm before).standing
    rw [stands, Option.some.injEq] at linked
    exact notLink target linked
  fixed directory := by
    rw [Path.text_chars, Files.resolve_strict_of_firm directory firm]
    rfl

/-! ### Targets that are there -/

/-- All that a target leads through, taken from the root, is there. -/
def IsThere (files : Files) (root : Location) (target : String) : Prop :=
  ∃ found, files.resolveStrict [] (Path.fromDirectory root target.toList).chars = .ok found

theorem handed_back_firm (isThere : IsThere files root target)
    (resolved : resolveIn files root target = .ok place) :
    ∃ found : Location, place = found ∧ Firm files found := by
  obtain ⟨found, strict⟩ := isThere
  have firm := Files.resolve_strict_firm (Files.firm_top files) strict
  unfold resolveIn at resolved
  simp only [strict] at resolved
  split_ifs at resolved
  exact ⟨found, (Except.ok.inj resolved).symm, firm⟩

/-! ### The root by its canonical path -/

theorem canonical_root_again (usable : canonicalRoot files rootPath = .ok root) :
    canonicalRoot files (locationText root) = .ok root := by
  have top : Path.isAbsolute (locationText root) = true := by
    rw [Path.isAbsolute, locationText, Path.text_chars, Path.chars_head]
    rfl
  have same := Files.resolve_strict_of_firm [] (canonical_root_firm usable)
  rw [canonicalRoot, if_pos top, locationText, Path.text_chars, same]

/-- The canonical root is a canonical path, and so is what is handed back for a target that is there.
Targets come out the same, handed back or refused, if the root is given by its canonical path. -/
theorem canonical_paths_fixed (usable : canonicalRoot files rootPath = .ok root) :
    Canonical files root ∧
    (∀ target place, IsThere files root target → resolve files rootPath target = .ok place →
      Canonical files place) ∧
    ∀ target, resolve files (locationText root) target = resolve files rootPath target := by
  refine ⟨canonical_of_firm (canonical_root_firm usable), ?_, ?_⟩
  · intro target place isThere resolved
    rw [resolve_in_of_usable usable] at resolved
    obtain ⟨found, rfl, firm⟩ := handed_back_firm isThere resolved
    exact canonical_of_firm firm
  · intro target
    rw [resolve_in_of_usable usable, resolve_in_of_usable (canonical_root_again usable)]

/-- A directory with a file and two links in it, one of which leads through itself, and a link to the
directory. -/
def linkedRoot : Files :=
  ⟨[([['r']], .directory none), ([['r'], ['a']], .file [] 0),
    ([['r'], ['b']], .link "../l/./a".toList), ([['r'], ['o']], .link "o".toList),
    ([['l']], .link "r".toList)]⟩

/-- A file that is reached by links through the root's own link is canonical, and the loop beside it
is refused in the same way whichever name the root is given by. -/
theorem linked_root_fixed :
    canonicalRoot linkedRoot "/l" = .ok [['r']] ∧ Canonical linkedRoot ([['r']] : Location) ∧
      IsThere linkedRoot [['r']] "b" ∧
      resolve linkedRoot "/l" "b" = .ok ([['r'], ['a']] : Location) ∧
      Canonical linkedRoot ([['r'], ['a']] : Location) ∧
      resolve linkedRoot "/l" "o" = .error (.blocked (.linkLoop "/r/o" "/r/o")) ∧
      resolve linkedRoot "/r" "o" = .error (.blocked (.linkLoop "/r/o" "/r/o")) := by
  have usable : canonicalRoot linkedRoot "/l" = .ok [['r']] := by decide +kernel
  have isThere : IsThere linkedRoot [['r']] "b" := ⟨[['r'], ['a']], by decide +kernel⟩
  have resolved : resolve linkedRoot "/l" "b" = .ok ([['r'], ['a']] : Location) := by
    decide +kernel
  have looped : resolve linkedRoot "/l" "o" = .error (.blocked (.linkLoop "/r/o" "/r/o")) := by
    decide +kernel
  obtain ⟨rootCanonical, handedBack, same⟩ := canonical_paths_fixed usable
  have text : locationText [['r']] = "/r" := by decide +kernel
  refine ⟨usable, rootCanonical, isThere, resolved, handedBack "b" _ isThere resolved, looped, ?_⟩
  rw [← text, same "o", looped]

end StorefrontSurvey.Sandbox
