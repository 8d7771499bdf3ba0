import StorefrontSurvey.Proofs.Placement.Spelling
/-!
Verdicts against allowlists. An allowlist is asked one thing only, whether it shares the query, and
only for a module's consumer and a query of no module. So no allowlist hides a failure; a longer one
can turn a pass into the warning that the query is shared, and nothing else.
-/
namespace StorefrontSurvey.Placement

open StorefrontSurvey.Path (Chars unifySlashes)

variable {consumer query : String} {allowlist fewer more other : List String}

/-! ### What an allowlist says -/

/-- The texts that an allowlist shares: its entries with backslashes read as slashes, without the
empty ones. -/
def meant (allowlist : List String) : List Chars :=
  (allowlist.map fun entry => unifySlashes entry.toList).filter (· ≠ [])

/-- Two allowlists share the same texts, in whatever order, however often and with whatever slashes
they are written, and with however many empty entries between them. -/
def MeanTheSame (allowlist other : List String) : Prop :=
  ∀ text, text ∈ meant allowlist ↔ text ∈ meant other

theorem unified_eq_nil {path : String} : unifySlashes path.toList = [] ↔ path = "" := by
  rw [unifySlashes, List.map_eq_nil_iff, String.toList_eq_nil_iff]

theorem mem_meant {text : Chars} :
    text ∈ meant allowlist ↔
      ∃ entry ∈ allowlist, entry ≠ "" ∧ unifySlashes entry.toList = text := by
  rw [meant, List.mem_filter, List.mem_map]
  constructor
  · rintro ⟨⟨entry, member, rfl⟩, given⟩
    exact ⟨entry, member, fun empty => of_decide_eq_true given (unified_eq_nil.2 empty), rfl⟩
  · rintro ⟨entry, member, given, rfl⟩
    exact ⟨⟨entry, member, rfl⟩, decide_eq_true fun empty => given (unified_eq_nil.1 empty)⟩

theorem is_shared_iff :
    isShared query allowlist = true ↔
      ∃ text ∈ meant allowlist, Text.occursIn text (unifySlashes query.toList) = true := by
  simp only [isShared, List.any_eq_true, Bool.and_eq_true, decide_eq_true_eq, mem_meant]
  constructor
  · rintro ⟨entry, member, given, occurs⟩
    exact ⟨_, ⟨entry, member, given, rfl⟩, occurs⟩
  · rintro ⟨_, ⟨entry, member, given, rfl⟩, occurs⟩
    exact ⟨entry, member, given, occurs⟩

theorem meant_subset (subset : fewer ⊆ more) : meant fewer ⊆ meant more := by
  intro text shared
  obtain ⟨entry, member, written⟩ := mem_meant.1 shared
  exact mem_meant.2 ⟨entry, subset member, written⟩

/-- What is shared by some entries is shared by more of them. -/
theorem is_shared_more (subset : fewer ⊆ more) (shared : isShared query fewer = true) :
    isShared query more = true := by
  obtain ⟨text, among, occurs⟩ := is_shared_iff.1 shared
  exact is_shared_iff.2 ⟨text, meant_subset subset among, occurs⟩

theorem is_shared_same (same : MeanTheSame allowlist other) :
    isShared query allowlist = isShared query other := by
  rw [Bool.eq_iff_iff, is_shared_iff, is_shared_iff]
  exact exists_congr fun text => and_congr_left' (same text)

/-! ### What a verdict asks of it -/

/-- A module uses a query that belongs to no module. -/
def AsksAllowlist (consumer query : String) (name : String) : Prop :=
  ownerOf consumer = .module name ∧ ∀ owner, ownerOf query ≠ .module owner

theorem judge_asked {name : String} (asks : AsksAllowlist consumer query name) :
    judge consumer query allowlist =
      if isShared query allowlist then sharedQuery query name else pass (.module name) := by
  obtain ⟨owned, unowned⟩ := asks
  rw [judge, owned]
  cases asked : ownerOf query with
  | «module» owner => exact absurd asked (unowned owner)
  | platform | layout | unknown => rfl

/-- A verdict that asks the allowlist nothing is the same under all of them. -/
theorem judge_unasked (unasked : ∀ name, ¬AsksAllowlist consumer query name) :
    judge consumer query allowlist = judge consumer query other := by
  rw [judge, judge]
  cases owned : ownerOf consumer with
  | «module» name =>
      cases asked : ownerOf query with
      | «module» owner => rfl
      | platform | layout | unknown => exact absurd ⟨owned, by simp [asked]⟩ (unasked name)
  | platform | layout => cases ownerOf query <;> rfl
  | unknown => rfl

/-- All that a verdict takes from an allowlist is whether it shares the query. -/
theorem judge_shared_alike (same : isShared query allowlist = isShared query other) :
    judge consumer query allowlist = judge consumer query other := by
  by_cases asks : ∃ name, AsksAllowlist consumer query name
  · obtain ⟨name, asks⟩ := asks
    rw [judge_asked asks, judge_asked asks, same]
  · exact judge_unasked (not_exists.1 asks)

/-! ### Longer allowlists -/

/-- A verdict under some entries, and the one under more of them. -/
structure Grows (consumer query : String) (before after : Verdict) : Prop where
  /-- What fails or warns stays as it is. -/
  settled : before.status ≠ .pass → after = before
  /-- What passes does so still, or is now a module's use of a shared query. -/
  passing : before.status = .pass → after = before ∨
    ∃ name, AsksAllowlist consumer query name ∧ after = sharedQuery query name ∧
      after.status = .warn ∧ after.codes = ["SHARED_QUERY_WARNING"]

theorem Grows.same {verdict other : Verdict} (same : other = verdict) :
    Grows consumer query verdict other :=
  ⟨fun _ => same, fun _ => Or.inl same⟩

theorem judge_grows (consumer query : String) (subset : fewer ⊆ more) :
    Grows consumer query (judge consumer query fewer) (judge consumer query more) := by
  by_cases asks : ∃ name, AsksAllowlist consumer query name
  · obtain ⟨name, asks⟩ := asks
    cases shared : isShared query fewer with
    | true =>
        apply Grows.same
        rw [judge_asked asks, judge_asked asks, shared, is_shared_more subset shared]
    | false =>
        have before : judge consumer query fewer = pass (.module name) := by
          rw [judge_asked asks, shared, if_neg Bool.false_ne_true]
        cases sharedNow : isShared query more with
        | false => exact Grows.same (judge_shared_alike (sharedNow.trans shared.symm))
        | true =>
            have after : judge consumer query more = sharedQuery query name := by
              rw [judge_asked asks, sharedNow, if_pos rfl]
            rw [before, after]
            exact ⟨fun failing => absurd rfl failing, fun _ => .inr ⟨name, asks, rfl, rfl, rfl⟩⟩
  · exact Grows.same (judge_unasked (not_exists.1 asks))

/-- A query is refused exactly if it belongs to a module and its consumer, whose owner is known,
does not belong to that module, whatever is shared. More entries leave each verdict as it is, but
for a pass that they turn into the warning of a shared query. How the entries are ordered, repeated
and spelled, and whether empty ones stand among them, makes no difference. -/
theorem allowlist_hides_nothing (consumer query : String) :
    (∀ allowlist, (judge consumer query allowlist).status = .fail ↔
      Intrudes (ownerOf consumer) (ownerOf query)) ∧
    (∀ fewer more, fewer ⊆ more →
      Grows consumer query (judge consumer query fewer) (judge consumer query more)) ∧
    ∀ allowlist other, MeanTheSame allowlist other →
      judge consumer query allowlist = judge consumer query other :=
  ⟨fun allowlist => (judge_ruling consumer query allowlist).fail,
    fun _ _ subset => judge_grows consumer query subset,
    fun _ _ same => judge_shared_alike (is_shared_same same)⟩

/-- A menu's query passes with nothing shared, and is warned of once its directory is; the entry may
be written with a backslash, twice, and beside an empty one. -/
theorem shared_menu_warned :
    let consumer := "app/modules/cart/x.tsx"
    let query := "app/shared/menu.gql.ts"
    Grows consumer query (judge consumer query []) (judge consumer query ["app/shared"]) ∧
      judge consumer query ["app/shared"] =
        judge consumer query ["", "app\\shared", "app\\shared"] := by
  intro consumer query
  obtain ⟨_, grows, same⟩ := allowlist_hides_nothing consumer query
  have entries : ["app/shared".toList] ⊆ meant ["", "app\\shared", "app\\shared"] ∧
      meant ["", "app\\shared", "app\\shared"] ⊆ ["app/shared".toList] ∧
      meant ["app/shared"] = ["app/shared".toList] := by decide +kernel
  refine ⟨grows [] _ (List.nil_subset _), same _ _ fun text => ?_⟩
  rw [entries.2.2]
  exact ⟨fun member => entries.1 member, fun member => entries.2.1 member⟩

end StorefrontSurvey.Placement
