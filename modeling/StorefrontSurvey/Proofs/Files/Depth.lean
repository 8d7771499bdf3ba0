import StorefrontSurvey.Proofs.Files.Resolution
/-!
The bound on links within links. A link is opened only where one stands, and none is opened twice on
one way, so a bound of as many links as there are entries is never met: a deeper one answers the
same.
-/
namespace StorefrontSurvey.Files

open StorefrontSurvey.Path (Chars Segment Location Absolute IsName Names SlashFree)

variable {files : Files} {place : Location}

/-! ### What bars the way to a place -/

theorem byte_length_append (left right : Chars) :
    byteLength (left ++ right) = byteLength left + byteLength right := by
  induction left with
  | nil => simp [byteLength]
  | cons c rest ih =>
      simp only [byteLength, List.cons_append, List.foldr_cons] at ih ⊢
      rw [ih, Nat.add_assoc]

theorem chars_append (early more : Location) (doubled : Bool) :
    ∃ rest, (⟨early ++ more, doubled⟩ : Absolute).chars =
      (⟨early, doubled⟩ : Absolute).chars ++ rest := by
  by_cases start : early = []
  · exact ⟨Path.joinSlash more, by simp [start, Absolute.chars, Path.joinSlash]⟩
  · by_cases finish : more = []
    · exact ⟨[], by simp [finish]⟩
    · refine ⟨'/' :: Path.joinSlash more, ?_⟩
      simp [Absolute.chars, Path.join_append early more start finish]

theorem not_barred_before {early : Location} {doubled : Bool} (before : early <+: place)
    (free : barred? ⟨place, doubled⟩ = none) : barred? ⟨early, doubled⟩ = none := by
  obtain ⟨more, rfl⟩ := before
  obtain ⟨rest, written⟩ := chars_append early more doubled
  unfold barred? at free ⊢
  rw [written, byte_length_append] at free
  split_ifs at free with null long
  rw [if_neg, if_neg]
  · omega
  · simp_all

/-! ### Ways without links -/

/-- Names that lead through no link, at least none that can be read. -/
structure Settled (files : Files) (place : Location) : Prop where
  names : Names place
  unlinked : ∀ early, early <+: place → ∀ target,
    files.linkTarget? (early : Absolute) ≠ .ok (some target)

theorem settled_top (files : Files) : Settled files [] where
  names := by simp [Names]
  unlinked early before target := by
    rw [List.prefix_nil.1 before]
    simp [linkTarget?, locate_eq, walk_nil, node?, bind, Except.bind, pure, Except.pure,
      show barred? (([] : Location) : Absolute) = none from rfl]

theorem settled_up (settled : Settled files place) : Settled files place.dropLast where
  names name member := settled.names name (List.mem_of_mem_dropLast member)
  unlinked early before := settled.unlinked early (before.trans (List.dropLast_prefix place))

theorem settled_into {mode : Mode} {name : Segment} (settled : Settled files place)
    (isName : IsName name) (entry : files.targetFor mode (place ++ [name]) = .ok none) :
    Settled files (place ++ [name]) where
  names := List.forall_mem_append.2 ⟨settled.names, by simpa using isName⟩
  unlinked early before target linked := by
    rcases List.prefix_concat_iff.1 before with whole | within
    · rw [whole] at linked
      simp [targetFor, linked] at entry
    · exact settled.unlinked early within target linked

theorem start_settled (settled : Settled files place) (target : Chars) :
    Settled files (startOf place target).1 := by
  unfold startOf
  by_cases absolute : target.head? = some '/'
  · simpa [absolute] using settled_top files
  · simpa [absolute] using settled

/-- A walk along the names of a place finds it standing, or comes to a link on the way. -/
theorem walk_along (followLast : Bool) (links : Nat) (rest : List Segment) (last : Location)
    (names : Names place) (walked : files.walk followLast links [] (place ++ rest) = .ok last) :
    Standing files place ∨ ∃ before name target, before ++ [name] <+: place ∧
      Standing files before ∧ IsName name ∧ files.turn before name = .through target := by
  induction place using List.reverseRecOn generalizing rest with
  | nil => exact Or.inl .top
  | append_singleton before name ih =>
      obtain ⟨beforeNames, lastName⟩ := List.forall_mem_append.1 names
      have isName : IsName name := lastName name (by simp)
      rw [List.append_assoc, List.singleton_append] at walked
      rcases ih (name :: rest) beforeNames walked with
        standing | ⟨early, other, target, within, standing, isOther, through⟩
      · rw [walk_from_top standing, walk_cons] at walked
        cases found : files.turn before name with
        | stop cause => simp [found] at walked
        | go next =>
            obtain ⟨rfl, _⟩ := name_turn_go isName found
            exact Or.inl (.into standing isName found)
        | through target =>
            exact Or.inr ⟨before, name, target, List.prefix_refl _, standing, isName, found⟩
      · exact Or.inr ⟨early, other, target, within.trans (List.prefix_append _ _), standing,
          isOther, through⟩

/-- A link that is met after such names is an entry of its own. -/
theorem link_stands {name : Segment} {target : Chars} (settled : Settled files place)
    (isName : IsName name)
    (linked : files.linkTarget? ((place ++ [name] : Location) : Absolute) = .ok (some target)) :
    files.node? (place ++ [name]) = some (.link target) := by
  have standing : Standing files place := by
    have located := linked
    rw [linkTarget?, locate_eq] at located
    cases bar : barred? ((place ++ [name] : Location) : Absolute) with
    | some fault => simp [bar, bind, Except.bind] at located
    | none =>
        cases walked : files.walk false mostLinks [] (place ++ [name]) with
        | error cause => simp [bar, walked, bind, Except.bind] at located
        | ok last =>
            rcases walk_along false mostLinks [name] last settled.names walked with
              standing | ⟨before, other, aim, within, standing, isOther, through⟩
            · exact standing
            · refine absurd ?_ (settled.unlinked (before ++ [other]) within aim)
              rw [link_target_eq standing isOther, through,
                not_barred_before (within.trans (List.prefix_append _ _)) bar]
  exact name_turn_through isName (link_target_turn standing isName linked).2

theorem link_of_target_for {mode : Mode} {target : Chars}
    (entry : files.targetFor mode place = .ok (some target)) :
    files.linkTarget? (place : Absolute) = .ok (some target) := by
  unfold targetFor at entry
  split at entry <;> simp_all

theorem follow_settled (mode : Mode) (depth : Nat) (opened : List Location)
    (names : List Segment) (last : Location) (settled : Settled files place)
    (free : SlashFree names)
    (followed : files.follow mode depth opened place names = .ok (.done last)) :
    Settled files last := by
  induction depth, opened, place, names, free using follow_induction generalizing last with
  | nil depth opened place =>
      rw [follow_nil] at followed
      cases followed
      exact settled
  | skip depth opened place name rest _ _ skipped ih =>
      rw [follow_skip _ _ _ _ _ _ _ skipped] at followed
      exact ih last settled followed
  | up depth opened place rest _ _ ih =>
      rw [follow_up] at followed
      exact ih last (settled_up settled) followed
  | entry depth opened place name rest _ _ isName ih deeper =>
      rw [follow_name _ _ _ _ _ _ _ isName] at followed
      rcases entry_done followed with plain | ⟨middle, passed⟩
      · rw [entry_plain rest plain] at followed
        exact ih _ last (settled_into settled isName plain) followed
      · rw [entry_link rest passed] at followed
        obtain ⟨_, target, fewer, rfl, _, led⟩ := passed
        have middleSettled := deeper fewer _ _ _ (start_slash_free place target)
          (Nat.lt_succ_self fewer) middle (start_settled settled target) led
        exact ih middle last middleSettled followed

/-! ### Links that are not open -/

def unopened (files : Files) (opened : List Location) : List Location :=
  (files.nodes.map Prod.fst).filter fun place => !opened.contains place

theorem unopened_length_le (files : Files) (opened : List Location) :
    (files.unopened opened).length ≤ files.nodes.length := by
  simpa [unopened] using List.length_filter_le _ (files.nodes.map Prod.fst)

/-- An entry that is opened leaves fewer that are not. -/
theorem unopened_less {opened : List Location} (member : place ∈ files.nodes.map Prod.fst)
    (fresh : opened.contains place = false) :
    (files.unopened (place :: opened)).length < (files.unopened opened).length := by
  have fewer : files.unopened (place :: opened) =
      (files.unopened opened).filter fun other => other ≠ place := by
    rw [unopened, unopened, List.filter_filter]
    congr 1
    funext other
    simp
  rw [fewer, List.length_filter_lt_length_iff_exists]
  exact ⟨place, List.mem_filter.2 ⟨member, by simpa using fresh⟩, by simp⟩

/-- A bound that leaves room for all entries that are not open can be raised. -/
theorem follow_one_deeper (mode : Mode) (depth : Nat) (opened : List Location)
    (names : List Segment) (settled : Settled files place) (free : SlashFree names)
    (room : (files.unopened opened).length ≤ depth) :
    files.follow mode (depth + 1) opened place names =
      files.follow mode depth opened place names := by
  induction depth, opened, place, names, free using follow_induction with
  | nil depth opened place => rw [follow_nil, follow_nil]
  | skip depth opened place name rest _ _ skipped ih =>
      rw [follow_skip _ _ _ _ _ _ _ skipped, follow_skip _ _ _ _ _ _ _ skipped]
      exact ih settled room
  | up depth opened place rest _ _ ih =>
      rw [follow_up, follow_up]
      exact ih (settled_up settled) room
  | entry depth opened place name rest _ _ isName ih deeper =>
      rw [follow_name _ _ _ _ _ _ _ isName, follow_name _ _ _ _ _ _ _ isName, followEntry,
        followEntry]
      cases entry : files.targetFor mode (place ++ [name]) with
      | error fault => rfl
      | ok target? =>
          cases target? with
          | none => exact ih _ (settled_into settled isName entry) room
          | some target =>
              dsimp only
              split
              · rfl
              · rename_i fresh
                have stands := link_stands settled isName (link_of_target_for entry)
                have listed : place ++ [name] ∈ files.nodes.map Prod.fst :=
                  List.mem_map_of_mem (node_listed (by simp) stands)
                have less := unopened_less listed (by simpa using fresh)
                -- The link itself was not open, so there is room for one level more.
                obtain ⟨fewer, rfl⟩ : ∃ fewer, depth = fewer + 1 :=
                  Nat.exists_eq_succ_of_ne_zero (by omega)
                have started := start_settled settled target
                have targetFree := start_slash_free place target
                have inside := deeper fewer ((place ++ [name]) :: opened) _ _ targetFree
                  (Nat.lt_succ_self fewer) started (by omega)
                rw [followLink, followLink, List.dropLast_concat, inside]
                cases led : files.follow mode fewer ((place ++ [name]) :: opened)
                    (startOf place target).1 (startOf place target).2 with
                | error fault => rfl
                | ok inner =>
                    cases inner with
                    | caught last => rfl
                    | done last =>
                        exact ih last (follow_settled mode fewer _ _ last started targetFree led)
                          room

theorem follow_deeper (mode : Mode) {depth most : Nat} (opened : List Location)
    (names : List Segment) (settled : Settled files place) (free : SlashFree names)
    (room : (files.unopened opened).length ≤ depth) (le : depth ≤ most) :
    files.follow mode most opened place names = files.follow mode depth opened place names := by
  induction most, le using Nat.le_induction with
  | base => rfl
  | succ most le ih =>
      rw [← ih]
      exact follow_one_deeper mode most opened names settled free (room.trans le)

/-- Any bound that is no less than the number of entries follows names in the same way. -/
theorem follow_from_eq (mode : Mode) (depth : Nat) (names : List Segment)
    (settled : Settled files place) (free : SlashFree names)
    (room : files.nodes.length ≤ depth) :
    files.followFrom mode place names = files.follow mode depth [] place names := by
  have enough := unopened_length_le files []
  rw [followFrom, follow_deeper mode [] names settled free enough (Nat.le_succ _),
    follow_deeper mode [] names settled free enough room]

end StorefrontSurvey.Files
