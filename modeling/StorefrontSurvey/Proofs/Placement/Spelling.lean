import StorefrontSurvey.Proofs.Placement.Ownership
/-!
Verdicts against the spelling of the two paths. A verdict is decided by who owns the consumer, whether
the query is another module's, and whether it is shared. It is the same for the normal forms of the
paths exactly if their collapsed segments answer these questions as the written ones do.
-/
namespace StorefrontSurvey.Placement

open StorefrontSurvey.Path (Segment)

variable {consumer query : String} {allowlist : List String}

/-! ### What decides a verdict -/

/-- The owner is known, and the query belongs to a module that is not the owner. -/
def Intrudes (owner query : Owner) : Prop :=
  owner ≠ .unknown ∧ ∃ name, query = .module name ∧ owner ≠ .module name

/-- The query is used by a module, belongs to none, and is shared. -/
def UsesShared (owner query : Owner) (shared : Bool) : Prop :=
  (∃ name, owner = .module name) ∧ (∀ name, query ≠ .module name) ∧ shared = true

def Verdict.codes (verdict : Verdict) : List String :=
  verdict.violations.map fun evidenced => evidenced.violation.code

/-- The codes that an owner is told of with a status. -/
def codesFor : Owner → Status → List String
  | _, .pass => []
  | .unknown, _ => ["UNKNOWN_OWNER"]
  | .module _, .fail => ["CROSS_MODULE_QUERY"]
  | .module _, .warn => ["SHARED_QUERY_WARNING"]
  | _, _ => ["PLATFORM_MODULE_QUERY"]

/-- What a verdict says is told by its status and the owner of the consumer. -/
structure Ruling (consumer query : String) (allowlist : List String) (verdict : Verdict) : Prop where
  owner : verdict.owner = ownerOf consumer
  codes : verdict.codes = codesFor (ownerOf consumer) verdict.status
  fail : verdict.status = .fail ↔ Intrudes (ownerOf consumer) (ownerOf query)
  warn : verdict.status = .warn ↔ ownerOf consumer = .unknown ∨
    UsesShared (ownerOf consumer) (ownerOf query) (isShared query allowlist)

theorem pass_ruling {owner : Owner} (owned : ownerOf consumer = owner) (known : owner ≠ .unknown)
    (free : ¬Intrudes owner (ownerOf query))
    (unshared : ¬UsesShared owner (ownerOf query) (isShared query allowlist)) :
    Ruling consumer query allowlist (pass owner) := by
  subst owned
  refine ⟨rfl, ?_, iff_of_false (by simp [pass]) free,
    iff_of_false (by simp [pass]) (not_or.2 ⟨known, unshared⟩)⟩
  cases ownerOf consumer <;> rfl

theorem cross_module_ruling {name other : String} (owned : ownerOf consumer = .module name)
    (asked : ownerOf query = .module other) (differs : name ≠ other) :
    Ruling consumer query allowlist (crossModule consumer query name other) where
  owner := owned.symm
  codes := by rw [owned]; rfl
  fail := iff_of_true rfl ⟨by simp [owned], other, asked, by simpa [owned] using differs⟩
  warn := by simp [crossModule, owned, asked, UsesShared]

theorem shared_query_ruling {name : String} (owned : ownerOf consumer = .module name)
    (unowned : ∀ other, ownerOf query ≠ .module other) (shared : isShared query allowlist = true) :
    Ruling consumer query allowlist (sharedQuery query name) where
  owner := owned.symm
  codes := by rw [owned]; rfl
  fail := by simp [sharedQuery, Intrudes, unowned]
  warn := iff_of_true rfl (Or.inr ⟨⟨name, owned⟩, unowned, shared⟩)

theorem platform_module_ruling {owner : Owner} {name : String} (owned : ownerOf consumer = owner)
    (general : owner = .platform ∨ owner = .layout) (asked : ownerOf query = .module name) :
    Ruling consumer query allowlist (platformModule consumer query owner) where
  owner := owned.symm
  codes := by rw [owned]; rcases general with rfl | rfl <;> rfl
  fail := by
    rw [owned]
    refine iff_of_true rfl ⟨?_, name, asked, ?_⟩ <;> rcases general with rfl | rfl <;> simp
  warn := by rcases general with rfl | rfl <;> simp [platformModule, UsesShared, owned]

theorem unknown_consumer_ruling (unowned : ownerOf consumer = .unknown) :
    Ruling consumer query allowlist (unknownConsumer consumer) where
  owner := unowned.symm
  codes := by rw [unowned]; rfl
  fail := by simp [unknownConsumer, Intrudes, unowned]
  warn := iff_of_true rfl (Or.inl unowned)

/-- Every verdict is the ruling of the first rule that applies. -/
theorem judge_ruling (consumer query : String) (allowlist : List String) :
    Ruling consumer query allowlist (judge consumer query allowlist) := by
  unfold judge
  cases owned : ownerOf consumer with
  | «module» name =>
      cases asked : ownerOf query with
      | «module» other =>
          by_cases same : name = other
          · simp only [if_pos same]
            exact pass_ruling owned nofun (by simp [Intrudes, asked, same])
              (by simp [UsesShared, asked])
          · simp only [if_neg same]
            exact cross_module_ruling owned asked same
      | platform | layout | unknown =>
          by_cases shared : isShared query allowlist = true
          · simp only [if_pos shared]
            exact shared_query_ruling owned (by simp [asked]) shared
          · simp only [if_neg shared]
            exact pass_ruling owned nofun (by simp [Intrudes, asked]) (by simp [UsesShared, shared])
  | platform | layout =>
      cases asked : ownerOf query with
      | «module» name => exact platform_module_ruling owned (by simp) asked
      | platform | layout | unknown =>
          exact pass_ruling owned nofun (by simp [Intrudes, asked]) (by simp [UsesShared])
  | unknown => exact unknown_consumer_ruling owned

/-! ### Two verdicts -/

/-- Two verdicts say the same, apart from the paths that they name. -/
structure Verdict.Agrees (verdict other : Verdict) : Prop where
  status : verdict.status = other.status
  owner : verdict.owner = other.owner
  codes : verdict.codes = other.codes

theorem status_eq_iff (status other : Status) :
    status = other ↔ (status = .fail ↔ other = .fail) ∧ (status = .warn ↔ other = .warn) := by
  cases status <;> cases other <;> simp

/-- Verdicts agree exactly if the consumers have one owner, and each query intrudes, or is used as a
shared one, if the other does. -/
theorem judge_agrees_iff {other otherQuery : String} :
    (judge consumer query allowlist).Agrees (judge other otherQuery allowlist) ↔
      ownerOf consumer = ownerOf other ∧
      (Intrudes (ownerOf consumer) (ownerOf query) ↔
        Intrudes (ownerOf consumer) (ownerOf otherQuery)) ∧
      (UsesShared (ownerOf consumer) (ownerOf query) (isShared query allowlist) ↔
        UsesShared (ownerOf consumer) (ownerOf otherQuery) (isShared otherQuery allowlist)) := by
  have ruling := judge_ruling consumer query allowlist
  have otherRuling := judge_ruling other otherQuery allowlist
  constructor
  · rintro ⟨status, owner, _⟩
    rw [ruling.owner, otherRuling.owner] at owner
    have fail := ruling.fail
    have warn := ruling.warn
    rw [status, otherRuling.fail] at fail
    rw [status, otherRuling.warn] at warn
    rw [← owner] at fail warn
    refine ⟨owner, fail.symm, ?_⟩
    by_cases unknown : ownerOf consumer = .unknown
    · simp [UsesShared, unknown]
    · simpa [unknown] using warn.symm
  · rintro ⟨owner, intrudes, shares⟩
    have status : (judge consumer query allowlist).status =
        (judge other otherQuery allowlist).status := by
      rw [status_eq_iff, ruling.fail, otherRuling.fail, ruling.warn, otherRuling.warn, ← owner]
      exact ⟨intrudes, or_congr_right shares⟩
    refine ⟨status, ?_, ?_⟩
    · rw [ruling.owner, otherRuling.owner, owner]
    · rw [ruling.codes, otherRuling.codes, owner, status]

/-! ### Spelling -/

/-- The segments of two paths show the same with empty, `.` and `..` ones collapsed as they do as
they are written: who owns the consumer, whether the query intrudes there, and whether it is used as
a shared one. -/
structure ShowsTheSame (consumer query : String) (allowlist : List String) : Prop where
  owner : ownerAmong (written consumer) = ownerAmong (collapsed consumer)
  intrudes : Intrudes (ownerAmong (written consumer)) (ownerAmong (written query)) ↔
    Intrudes (ownerAmong (written consumer)) (ownerAmong (collapsed query))
  shares : UsesShared (ownerAmong (written consumer)) (ownerAmong (written query))
      (isShared query allowlist) ↔
    UsesShared (ownerAmong (written consumer)) (ownerAmong (collapsed query))
      (isShared (Path.normalize query) allowlist)

/-- A verdict does not depend on how the paths are spelled exactly if their written and their
collapsed segments show the same. -/
theorem judge_normalize_agrees_iff (consumer query : String) (allowlist : List String) :
    (judge consumer query allowlist).Agrees
        (judge (Path.normalize consumer) (Path.normalize query) allowlist) ↔
      ShowsTheSame consumer query allowlist := by
  rw [judge_agrees_iff, owner_of_normalize, owner_of_normalize, owner_of_written,
    owner_of_written]
  constructor
  · rintro ⟨owner, intrudes, shares⟩
    exact ⟨owner, intrudes, shares⟩
  · rintro ⟨owner, intrudes, shares⟩
    exact ⟨owner, intrudes, shares⟩

theorem normalize_plain {path : String} (plain : Path.Plain (Path.unifySlashes path.toList)) :
    Path.unifySlashes (Path.normalize path).toList = Path.unifySlashes path.toList := by
  rw [Path.unify_normalize, Path.normal_text_plain plain]

/-- Backslashes and a slash in front change no verdict: paths of names alone show the same. -/
theorem plain_shows_the_same (plain : Path.Plain (Path.unifySlashes consumer.toList))
    (plainQuery : Path.Plain (Path.unifySlashes query.toList)) (allowlist : List String) :
    ShowsTheSame consumer query allowlist := by
  have owner {path : String} (plainPath : Path.Plain (Path.unifySlashes path.toList)) :
      ownerAmong (written path) = ownerAmong (collapsed path) := by
    rw [← owner_of_written, ← owner_of_normalize, ownerOf, ownerOf, normalize_plain plainPath]
  have shared : isShared query allowlist = isShared (Path.normalize query) allowlist := by
    rw [isShared, isShared, normalize_plain plainQuery]
  refine ⟨owner plain, ?_, ?_⟩
  · rw [owner plainQuery]
  · rw [owner plainQuery, shared]

/-- A query that is reached through another module is refused, although it is the consumer's own. -/
theorem dots_change_verdict :
    let consumer := "app/modules/b/x.tsx"
    let query := "app/modules/a/../b/y.gql.ts"
    (judge consumer query defaultAllowlist).status = .fail ∧
      (judge (Path.normalize consumer) (Path.normalize query) defaultAllowlist).status = .pass := by
  decide +kernel

end StorefrontSurvey.Placement
