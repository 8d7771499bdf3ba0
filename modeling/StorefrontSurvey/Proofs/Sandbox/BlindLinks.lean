import StorefrontSurvey.Proofs.Sandbox.Exits
/-!
Links that lead nowhere. Strict resolution cannot see past them, and lenient resolution can: it
keeps the names that are missing and goes on. The main statement says that this is the only way
out of a root: what is handed back is resolved leniently within the root, unless such a link on its
way leads out.
-/
namespace StorefrontSurvey.Sandbox

open StorefrontSurvey.Path (Chars Segment Location Absolute IsName Names)
open StorefrontSurvey.Files (Firm firm_top canonical_firm status_eq Blank standing_names)

variable {files : Files} {root : Location} {target : String} {place : Absolute}

/-- A link on the way of a path. The names before it lead to a directory that is there; up to the
link's own name the path leads nowhere. -/
structure BlindLink (files : Files) (way : Absolute) where
  before : Location
  name : Segment
  rest : List Segment
  directory : Location
  aim : Chars
  way_eq : way.location = before ++ name :: rest
  reached : files.resolveStrict [] (before : Absolute).chars = .ok directory
  stands : files.node? (directory ++ [name]) = some (.link aim)
  blind : ∃ fault, files.status ⟨before ++ [name], way.doubled⟩ = .error fault

/-- The way that is left from the directory of the link. -/
def BlindLink.onward {way : Absolute} (link : BlindLink files way) : Location :=
  link.directory ++ link.name :: link.rest

/-- A link on the way of a path leads nowhere, and to a place outside of a root if what is missing
is passed over. -/
def LeadsOut (files : Files) (root : Location) (way : Absolute) (outside : Location) : Prop :=
  ∃ link : BlindLink files way,
    files.resolveLenient [] (link.onward : Absolute).chars = .ok outside ∧
      isWithin outside root = false

theorem names_before {before : Location} {name : Segment} {rest : List Segment}
    (names : Names (before ++ name :: rest)) :
    Names before ∧ IsName name ∧ Names rest := by
  obtain ⟨beforeNames, others⟩ := List.forall_mem_append.1 names
  exact ⟨beforeNames, List.forall_mem_cons.1 others⟩

/-- From a link on its way, a path goes on to where it leads as a whole. -/
theorem blind_link_onward (names : Names place.location) (link : BlindLink files place) :
    files.resolveLenient [] (link.onward : Absolute).chars =
      files.resolveLenient [] place.chars := by
  have whole : (⟨link.before ++ link.name :: link.rest, place.doubled⟩ : Absolute) = place := by
    rw [← link.way_eq]
  rw [link.way_eq] at names
  have beforeNames := (names_before names).1
  rcases resolve_strict_cases files (link.before : Absolute) beforeNames with
    ⟨found, followed, strict⟩ | ⟨fault, _, strict⟩
  · rw [link.reached] at strict
    obtain rfl := Except.ok.inj strict
    have onward := Files.resolve_lenient_from [] place.doubled names followed
    rw [whole] at onward
    exact onward.symm
  · rw [link.reached] at strict
    cases strict

/-- A place lies within a root, and either it stands there or nothing can be asked of it. -/
structure KeptWithin (files : Files) (root place : Location) : Prop where
  inside : isWithin place root = true
  settled : Firm files place ∨ ∃ fault, files.status (place : Absolute) = .error fault

theorem kept_past_blank {parent last : Location} {name : Segment} {rest : List Segment}
    (rootNames : Names root) (firm : Firm files parent) (inside : isWithin parent root = true)
    (named : Names (name :: rest)) (blank : Blank files (parent ++ [name]))
    (followed : files.resolveLenient []
      ((parent ++ name :: rest : Location) : Absolute).chars = .ok last) :
    KeptWithin files root last := by
  have names : Names (parent ++ name :: rest) :=
    List.forall_mem_append.2 ⟨standing_names firm.standing, named⟩
  obtain ⟨reached, led, same⟩ := Files.follow_of_resolve_lenient names followed
  rw [Files.followFrom, Files.follow_from_top _ _ _ firm] at led
  have kept := Files.lenient_into_blank _ _ _ _ reached blank named led
  have asked := Files.blank_status blank rest
  rw [List.append_assoc, List.singleton_append] at asked
  rw [same _ kept]
  exact ⟨Path.within_append _ names rootNames inside, Or.inr asked⟩

/-- Where strict resolution of names from a firm place finds something missing, the first name
leads to nothing, to something that is no link, or to a link. -/
theorem missing_turn {parent : Location} {name : Segment} {rest : List Segment} {path : String}
    (firm : Firm files parent) (isName : IsName name)
    (missing : files.followFrom .strict parent (name :: rest) =
      .error (.system .missing path)) :
    Files.barred? ((parent ++ [name] : Location) : Absolute) = none ∧
      (Blank files (parent ++ [name]) ∨
        (rest ≠ [] ∧ files.turn parent name = .go (parent ++ [name])) ∨
        ∃ aim, files.node? (parent ++ [name]) = some (.link aim)) := by
  rw [Files.followFrom, Files.follow_name _ _ _ _ _ _ _ isName, Files.followEntry,
    Files.target_strict, Files.link_target_eq firm.standing isName] at missing
  cases bar : Files.barred? ((parent ++ [name] : Location) : Absolute) with
  | some fault =>
      simp only [bar, Except.error.injEq] at missing
      rcases Files.barred_fault bar with rfl | rfl <;> cases missing
  | none =>
      refine ⟨rfl, ?_⟩
      cases found : files.turn parent name with
      | stop cause => exact Or.inl (Files.blank_of_stop firm.standing found)
      | through aim => exact Or.inr (Or.inr ⟨aim, Files.name_turn_through isName found⟩)
      | go next =>
          obtain ⟨rfl, _⟩ := Files.name_turn_go isName found
          refine Or.inr (Or.inl ⟨?_, rfl⟩)
          rintro rfl
          simp [bar, found, Files.follow_nil] at missing

/-- A new entry of a directory in the root is resolved within the root, unless it is a link that
leads nowhere. -/
theorem entry_kept_or_blind {before parent last : Location} {name : Segment} {path : String}
    (rootNames : Names root) (names : Names (before ++ [name])) (firm : Firm files parent)
    (resolved : files.followFrom .strict [] before = .ok (.done parent))
    (inside : isWithin parent root = true)
    (missing : files.followFrom .strict [] (before ++ [name]) = .error (.system .missing path))
    (followed : files.resolveLenient []
      ((parent ++ [name] : Location) : Absolute).chars = .ok last) :
    KeptWithin files root last ∨
      Nonempty (BlindLink files ((parent ++ [name] : Location) : Absolute)) := by
  obtain ⟨beforeNames, isName, _⟩ := names_before names
  obtain ⟨alone, whole⟩ := entry_missing beforeNames firm resolved missing
  have named : Names [name] := by simpa [Names] using isName
  rcases (missing_turn firm isName alone).2 with blank | ⟨more, _⟩ | ⟨aim, stands⟩
  · exact Or.inl (kept_past_blank rootNames firm inside named blank followed)
  · exact absurd rfl more
  · have free := Path.names_slash_free (List.forall_mem_append.2
      ⟨standing_names firm.standing, named⟩)
    exact Or.inr ⟨{
      before := parent, name, rest := [], directory := parent, aim
      way_eq := rfl
      reached := Files.resolve_strict_of_firm [] firm
      stands
      blind := Files.status_of_wrong_turn free whole rfl }⟩

/-- What stands in a directory that leads somewhere leads somewhere too. -/
theorem nowhere_not_entry {before last : Location} {name : Segment} {doubled : Bool}
    (names : Names (before ++ [name]))
    (somewhere : files.leadsSomewhere ⟨before, doubled⟩ = .ok true)
    (nowhere : files.leadsSomewhere ⟨before ++ [name], doubled⟩ = .ok false)
    (followed : files.followFrom .strict [] before = .ok (.done last))
    (free : Files.barred? ((last ++ [name] : Location) : Absolute) = none) :
    files.turn last name ≠ .go (last ++ [name]) := by
  intro found
  have beforeNames : Names before := fun other member => names other (by simp [member])
  obtain ⟨node, asked⟩ := status_of_somewhere somewhere
  obtain ⟨beforeFree, _⟩ :=
    Files.walk_of_status (Path.names_slash_free beforeNames) asked followed
  obtain ⟨fault, failed, notLong⟩ := status_of_nowhere nowhere
  rcases Files.status_onward names asked followed found with ⟨other, bar⟩ | ⟨other, shown⟩
  · have same : other = fault := by
      rw [status_eq _ (Path.names_slash_free names), bar] at failed
      exact Except.error.inj failed
    rcases Files.barred_fault bar with null | long
    · obtain ⟨segment, member, holds⟩ := Files.null_in_name (null ▸ bar)
      rcases List.mem_append.1 member with earlier | last'
      · exact Files.no_null beforeFree segment earlier holds
      · rw [List.mem_singleton.1 last'] at holds
        exact Files.no_null free name (by simp) holds
    · exact notLong _ (same ▸ long)
  · rw [failed] at shown
    cases shown

/-- A path that shows something is resolved strictly if a longer one fails only for something
missing: any other fault on the way would have been the longer path's. -/
theorem ancestor_resolved {before rest : Location} {doubled : Bool} {node : Files.Node}
    {path : String} (names : Names before)
    (asked : files.status ⟨before, doubled⟩ = .ok node)
    (missing : files.followFrom .strict [] (before ++ rest) = .error (.system .missing path)) :
    ∃ canonical, files.followFrom .strict [] before = .ok (.done canonical) ∧
      files.followFrom .strict canonical rest = .error (.system .missing path) := by
  have free := Path.names_slash_free names
  rcases Files.strict_of_status free asked with ⟨canonical, strict⟩ | ⟨other, failed, notWrong⟩
  · refine ⟨canonical, strict, ?_⟩
    rw [← missing]
    exact (Files.follow_append_done .strict _ [] before rest canonical free strict).symm
  · have whole : files.followFrom .strict [] (before ++ rest) = .error other :=
      Files.follow_append_error .strict _ [] before rest other free failed
    rw [missing] at whole
    cases whole
    cases notWrong

/-- A place that is handed back as it is written is resolved within the root, unless a link that
leads nowhere is on its way. -/
theorem unresolved_kept_or_blind {last : Location} {path : String} {fault : Files.Fault}
    (rootNames : Names root) (names : Names place.location)
    (missing : files.followFrom .strict [] place.location = .error (.system .missing path))
    (parentFault : files.followFrom .strict [] place.location.dropLast = .error fault)
    (checked : checkAncestors files root target place.parents = .ok ())
    (followed : files.resolveLenient [] place.chars = .ok last) :
    KeptWithin files root last ∨ Nonempty (BlindLink files place) := by
  obtain ⟨depth, length⟩ : ∃ depth, place.location.length = depth + 1 := by
    cases whole : place.location with
    | nil =>
        rw [whole, Files.follow_firm .strict (firm_top files)] at missing
        cases missing
    | cons first rest => exact ⟨rest.length, rfl⟩
  rw [Absolute.parents, length] at checked
  obtain ⟨before, name, rest, found, parts, somewhere, resolved, inside, nowhere⟩ :=
    check_ancestors_nearest depth place length checked
  rw [parts] at names missing parentFault
  obtain ⟨beforeNames, isName, restNames⟩ := names_before names
  obtain ⟨node, asked⟩ := status_of_somewhere somewhere
  obtain ⟨canonical, strict, missed⟩ := ancestor_resolved beforeNames asked missing
  have firm := canonical_firm beforeNames strict
  obtain ⟨free, turned⟩ := missing_turn firm isName missed
  rcases turned with blank | ⟨more, entry⟩ | ⟨aim, stands⟩
  · -- The ancestor is within the root, and all after it is kept as it is written.
    have insideCanonical : isWithin canonical root = true := by
      have beforeOnly : Names (before ++ []) := by simpa using beforeNames
      have ancestor := Files.resolve_lenient_from [] place.doubled beforeOnly strict
      rw [List.append_nil, List.append_nil, Files.resolve_lenient_of_firm [] firm,
        resolved] at ancestor
      exact Except.ok.inj ancestor ▸ inside
    have whole : place = ⟨before ++ name :: rest, place.doubled⟩ := by rw [← parts]
    have onward : files.resolveLenient []
        ((canonical ++ name :: rest : Location) : Absolute).chars = .ok last := by
      rw [← followed, whole, Files.resolve_lenient_from [] place.doubled names strict]
    exact Or.inl (kept_past_blank rootNames firm insideCanonical
      (List.forall_mem_cons.2 ⟨isName, restNames⟩) blank onward)
  · refine absurd entry (nowhere_not_entry ?_ somewhere (nowhere more) strict free)
    exact List.forall_mem_append.2 ⟨beforeNames, by simpa using isName⟩
  · have restPresent : rest ≠ [] := by
      rintro rfl
      rw [List.dropLast_concat, strict] at parentFault
      cases parentFault
    obtain ⟨shown, failed, _⟩ := status_of_nowhere (nowhere restPresent)
    have reached : files.resolveStrict [] ((before : Location) : Absolute).chars =
        .ok canonical := by
      rw [Files.resolve_strict_chars [] _ beforeNames, strict]
    exact Or.inr ⟨{
      before, name, rest, directory := canonical, aim, way_eq := parts, reached, stands
      blind := ⟨shown, failed⟩ }⟩

/-- Whatever is handed back is resolved within the root, unless a link that leads nowhere is on its
way. -/
theorem exit_kept_or_blind {result : Absolute} {last : Location}
    (usable : Firm files root) (names : Names place.location)
    (exit : Exit files root target place result)
    (followed : files.resolveLenient [] result.chars = .ok last) :
    KeptWithin files root last ∨ Nonempty (BlindLink files result) := by
  have rootNames := standing_names usable.standing
  cases exit with
  | found firm inside =>
      rw [Files.resolve_lenient_of_firm [] firm] at followed
      cases followed
      exact Or.inl ⟨inside, Or.inl firm⟩
  | entry split missing resolved firm inside =>
      rw [split] at names missing
      exact entry_kept_or_blind rootNames names firm resolved inside missing followed
  | unresolved missing parentFault _ checked =>
      exact unresolved_kept_or_blind rootNames names missing parentFault checked followed

theorem resolve_kept_or_blind {rootPath : String} {last : Location}
    (usable : canonicalRoot files rootPath = .ok root)
    (resolved : resolve files rootPath target = .ok place)
    (followed : files.resolveLenient [] place.chars = .ok last) :
    KeptWithin files root last ∨ Nonempty (BlindLink files place) :=
  exit_kept_or_blind (canonical_root_firm usable)
    (Path.from_directory_names root target.toList) (resolve_exit usable resolved) followed

theorem resolve_onward {rootPath : String} (usable : canonicalRoot files rootPath = .ok root)
    (resolved : resolve files rootPath target = .ok place) (link : BlindLink files place) :
    files.resolveLenient [] (link.onward : Absolute).chars =
      files.resolveLenient [] place.chars :=
  blind_link_onward (exit_names (Path.from_directory_names root target.toList)
    (resolve_exit usable resolved)) link

/-- What is handed back leads out of the root exactly if it is resolved leniently to a place outside
of it. -/
theorem leads_out_iff {rootPath : String} {outside : Location}
    (usable : canonicalRoot files rootPath = .ok root)
    (resolved : resolve files rootPath target = .ok place) :
    LeadsOut files root place outside ↔
      files.resolveLenient [] place.chars = .ok outside ∧ isWithin outside root = false := by
  constructor
  · rintro ⟨link, onward, out⟩
    rw [resolve_onward usable resolved link] at onward
    exact ⟨onward, out⟩
  · rintro ⟨followed, out⟩
    rcases resolve_kept_or_blind usable resolved followed with kept | ⟨⟨link⟩⟩
    · rw [kept.inside] at out
      cases out
    · refine ⟨link, ?_, out⟩
      rw [resolve_onward usable resolved link, followed]

/-- What a sandbox hands back is resolved within its root exactly if no link on the way of it leads
nowhere and, once missing names are passed over, out of the root. -/
theorem resolved_within_iff_no_way_out {rootPath : String}
    (usable : canonicalRoot files rootPath = .ok root)
    (resolved : resolve files rootPath target = .ok place) :
    (∀ last, files.resolveLenient [] place.chars = .ok last → isWithin last root = true) ↔
      ¬∃ outside, LeadsOut files root place outside := by
  simp only [leads_out_iff usable resolved, not_exists, not_and, Bool.not_eq_false]

def onlyLink (aim : String) : Files :=
  ⟨[([['r']], .directory none), ([['r'], ['l']], .link aim.toList)]⟩

/-- A link back into the root is handed back and resolved there, although nothing is there yet. -/
theorem link_to_absent_within :
    canonicalRoot (onlyLink "../r/x") "/r" = .ok [['r']] ∧
      resolve (onlyLink "../r/x") "/r" "l" = .ok ([['r'], ['l']] : Location) ∧
      ¬∃ outside, LeadsOut (onlyLink "../r/x") [['r']] ([['r'], ['l']] : Location) outside := by
  have usable : canonicalRoot (onlyLink "../r/x") "/r" = .ok [['r']] := by decide +kernel
  have resolved : resolve (onlyLink "../r/x") "/r" "l" = .ok ([['r'], ['l']] : Location) := by
    decide +kernel
  have followed : (onlyLink "../r/x").resolveLenient []
      (([['r'], ['l']] : Location) : Absolute).chars = .ok [['r'], ['x']] := by decide +kernel
  refine ⟨usable, resolved, (resolved_within_iff_no_way_out usable resolved).1 ?_⟩
  intro last found
  rw [followed] at found
  cases found
  decide

/-- A link that leads nowhere is handed back, although what may come to stand there is outside of the
root. -/
theorem link_to_absent_escapes :
    canonicalRoot (onlyLink "../x") "/r" = .ok [['r']] ∧
      resolve (onlyLink "../x") "/r" "l" = .ok ([['r'], ['l']] : Location) ∧
      (onlyLink "../x").resolveLenient [] (([['r'], ['l']] : Location) : Absolute).chars =
        .ok [['x']] ∧
      isWithin [['x']] [['r']] = false := by decide +kernel

end StorefrontSurvey.Sandbox
