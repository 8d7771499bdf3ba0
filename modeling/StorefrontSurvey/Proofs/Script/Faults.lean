import StorefrontSurvey.Script.Fault
import Mathlib.Tactic.SplitIfs
import Mathlib.Tactic.ByContra
import Mathlib.Logic.Basic
/-!
What a tree is said to be broken by. The search for it passes over all nodes without a mark, so a
parser has to mark the nodes in which there is a fault, and only these. Of a tree with such marks
nothing is said exactly if there is no fault in it; otherwise the first fault in document order is
named with its place.
-/
namespace StorefrontSurvey.Script

namespace Node

/-- Text that fits nowhere, or a lexeme that is not in the text. -/
def IsFault (n : Node) : Prop := n.isError = true ∨ n.head.missing = true

/-- There is no fault in a node. -/
def IsSound (n : Node) : Prop := ∀ m ∈ n.preorder, ¬m.IsFault

/-- Of a node and its descendants, those are marked as damaged that have a fault in them. -/
def ShowsDamage (n : Node) : Prop := ∀ m ∈ n.preorder, m.head.damaged = true ↔ ¬m.IsSound

/-- The first fault in document order. -/
def foremostFault? (n : Node) : Option Fault := n.preorder.findSome? ownFault?

theorem own_fault_none_iff (n : Node) : n.ownFault? = none ↔ ¬n.IsFault := by
  have tested : (n.isError || n.head.missing) = true ↔ n.IsFault := by
    rw [Bool.or_eq_true, IsFault]
  unfold ownFault?
  split_ifs with found
  · simpa using tested.1 found
  · exact iff_of_true rfl fun fault => found (tested.2 fault)

theorem self_mem_preorder (n : Node) : n ∈ n.preorder := by
  rw [preorder_eq]
  exact List.mem_cons_self

theorem foremost_fault_none_iff (n : Node) : n.foremostFault? = none ↔ n.IsSound := by
  unfold foremostFault? IsSound
  rw [List.findSome?_eq_none_iff]
  exact forall₂_congr fun m _ => own_fault_none_iff m

theorem sound_of_unsuspected {n : Node} (shows : n.ShowsDamage) (clear : n.isSuspect = false) :
    n.IsSound := by
  unfold isSuspect at clear
  rw [Bool.or_eq_false_iff] at clear
  by_contra broken
  have damaged := (shows n (self_mem_preorder n)).2 broken
  rw [clear.1] at damaged
  cases damaged

/-! ### The search -/

/-- The marks are right in all nodes of a stack. -/
def ShowDamage (stack : List Node) : Prop := ∀ n ∈ stack, n.ShowsDamage

theorem show_damage_children {n : Node} (shows : n.ShowsDamage) : ShowDamage n.children := by
  intro child member m inside
  refine shows m ?_
  rw [preorder_eq, preorder_all_eq]
  exact List.mem_cons_of_mem _ (List.mem_flatMap.2 ⟨child, member, inside⟩)

/-- What the search leaves out has no fault in it. -/
theorem foremost_among_suspects {nodes : List Node} (shows : ShowDamage nodes) :
    (preorder.preorderAll (nodes.filter isSuspect)).findSome? ownFault? =
      (preorder.preorderAll nodes).findSome? ownFault? := by
  induction nodes with
  | nil => rfl
  | cons n rest ih =>
      have here : n.ShowsDamage := shows n List.mem_cons_self
      have later := ih fun m member => shows m (List.mem_cons_of_mem _ member)
      rw [preorder.preorderAll, List.findSome?_append]
      cases suspect : n.isSuspect with
      | true =>
          rw [List.filter_cons_of_pos suspect, preorder.preorderAll, List.findSome?_append, later]
      | false =>
          have sound := (foremost_fault_none_iff n).2 (sound_of_unsuspected here suspect)
          rw [foremostFault?] at sound
          rw [List.filter_cons_of_neg (by simp [suspect]), later, sound, Option.none_or]

/-- The search from a stack comes to the first fault in the nodes on it, the uppermost first. -/
theorem fault_on_eq {stack : List Node} (shows : ShowDamage stack) :
    faultOn? stack = (preorder.preorderAll stack).findSome? ownFault? := by
  fun_induction faultOn? stack with
  | case1 => rfl
  | case2 n stack fault here =>
      rw [preorder.preorderAll, preorder_eq, List.cons_append, List.findSome?_cons, here]
  | case3 n stack clear ih =>
      have above := show_damage_children (shows n List.mem_cons_self)
      have below : ShowDamage stack := fun m member => shows m (List.mem_cons_of_mem _ member)
      have next : ShowDamage (n.children.filter isSuspect ++ stack) := by
        intro m member
        rcases List.mem_append.1 member with child | waiting
        · exact above m (List.mem_filter.1 child).1
        · exact below m waiting
      rw [ih next, preorder_all_append, List.findSome?_append, foremost_among_suspects above,
        preorder.preorderAll, preorder_eq, List.cons_append, List.findSome?_cons, clear,
        List.findSome?_append]

/-- What a tree is said to be broken by is the first fault in it, if there is one. -/
theorem syntax_error_eq {n : Node} (shows : n.ShowsDamage) :
    n.syntaxError? = n.foremostFault?.map fun fault => (Damage.at fault).message := by
  have search : faultOn? [n] = n.foremostFault? := by
    rw [fault_on_eq fun m member => List.mem_singleton.1 member ▸ shows, foremostFault?,
      preorder.preorderAll, preorder.preorderAll, List.append_nil]
  unfold syntaxError? damage?
  rw [search]
  cases found : n.foremostFault? with
  | none =>
      have sound := (foremost_fault_none_iff n).1 found
      have unmarked : ¬n.head.damaged = true := fun damaged =>
        (shows n (self_mem_preorder n)).1 damaged sound
      rw [if_neg unmarked]
      rfl
  | some fault =>
      have broken : ¬n.IsSound := fun sound => by
        rw [(foremost_fault_none_iff n).2 sound] at found
        cases found
      rw [if_pos ((shows n (self_mem_preorder n)).2 broken)]
      rfl

/-! ### What is said -/

/-- A node is a fault, and there is none before it in document order. -/
def IsForemostFault (tree n : Node) : Prop :=
  n.IsFault ∧ ∃ before after, tree.preorder = before ++ n :: after ∧ ∀ m ∈ before, ¬m.IsFault

/-- What is wrong at a fault and where it is, rows and byte columns counted from one. -/
def faultText (n : Node) : String :=
  "syntax error (" ++ (if n.head.missing then "missing '" ++ n.kind ++ "'" else "unexpected token") ++
    ") at line " ++ toString (n.head.row + 1) ++ ", column " ++ toString (n.head.column + 1)

theorem own_fault_message {n : Node} (fault : n.IsFault) :
    n.ownFault?.map (fun f => (Damage.at f).message) = some n.faultText := by
  have tested : (n.isError || n.head.missing) = true := by
    rwa [Bool.or_eq_true]
  unfold ownFault? faultText Damage.message
  rw [if_pos tested, Option.map_some]
  cases n.head.missing <;> rfl

theorem fault_text_ne (n : Node) : n.faultText ≠ "syntax error" := by
  intro same
  have lengths := congrArg String.length same
  unfold faultText at lengths
  simp only [String.length_append] at lengths
  have opening : "syntax error (".length = 14 := by decide
  have bare : "syntax error".length = 12 := by decide
  omega

theorem foremost_fault_text {tree n : Node} (foremost : tree.IsForemostFault n) :
    tree.foremostFault?.map (fun f => (Damage.at f).message) = some n.faultText := by
  obtain ⟨fault, before, after, split, clear⟩ := foremost
  have none_before : before.findSome? ownFault? = none :=
    List.findSome?_eq_none_iff.2 fun m member => (own_fault_none_iff m).2 (clear m member)
  have told := own_fault_message fault
  rw [foremostFault?, split, List.findSome?_append, none_before, Option.none_or,
    List.findSome?_cons]
  cases own : n.ownFault? with
  | none => exact absurd fault ((own_fault_none_iff n).1 own)
  | some f => rwa [own] at told

theorem foremost_exists {tree : Node} (broken : ¬tree.IsSound) :
    ∃ n, tree.IsForemostFault n := by
  cases found : tree.foremostFault? with
  | none => exact absurd ((foremost_fault_none_iff tree).1 found) broken
  | some f =>
      obtain ⟨before, n, after, split, own, clear⟩ := List.findSome?_eq_some_iff.1 found
      refine ⟨n, ?_, before, after, split, fun m member => ?_⟩
      · by_contra sound
        rw [(own_fault_none_iff n).2 sound] at own
        cases own
      · exact (own_fault_none_iff m).1 (clear m member)

/-- Of a tree whose marks are right nothing is said exactly if there is no fault in it. What is said
otherwise is what the first fault in document order is and where; it is never left open. -/
theorem syntax_error_told {tree : Node} (shows : tree.ShowsDamage) :
    (tree.syntaxError? = none ↔ ∀ n ∈ tree.preorder, ¬n.IsFault) ∧
    (∀ text, tree.syntaxError? = some text ↔
      ∃ n, tree.IsForemostFault n ∧ text = n.faultText) ∧
    tree.syntaxError? ≠ some "syntax error" := by
  have first_told {n : Node} (foremost : tree.IsForemostFault n) :
      tree.syntaxError? = some n.faultText := by
    rw [syntax_error_eq shows, foremost_fault_text foremost]
  have some_told {text : String} (told : tree.syntaxError? = some text) :
      ∃ n, tree.IsForemostFault n ∧ text = n.faultText := by
    have broken : ¬tree.IsSound := fun sound => by
      rw [syntax_error_eq shows, (foremost_fault_none_iff tree).2 sound] at told
      cases told
    obtain ⟨n, foremost⟩ := foremost_exists broken
    exact ⟨n, foremost, Option.some.inj (told.symm.trans (first_told foremost))⟩
  refine ⟨?_, fun text => ⟨some_told, ?_⟩, fun bare => ?_⟩
  · rw [syntax_error_eq shows, Option.map_eq_none_iff]
    exact foremost_fault_none_iff tree
  · rintro ⟨n, foremost, rfl⟩
    exact first_told foremost
  · obtain ⟨n, _, same⟩ := some_told bare
    exact fault_text_ne n same.symm

instance (n : Node) : Decidable n.IsFault :=
  inferInstanceAs (Decidable (n.isError = true ∨ n.head.missing = true))

instance (n : Node) : Decidable n.IsSound :=
  inferInstanceAs (Decidable (∀ m ∈ n.preorder, ¬m.IsFault))

instance (n : Node) : Decidable n.ShowsDamage :=
  inferInstanceAs (Decidable (∀ m ∈ n.preorder, m.head.damaged = true ↔ ¬m.IsSound))

/-- The bracket that a text of two lines lacks, behind a letter of two bytes. -/
def lackingBracket : Node := .mk ⟨"]", false, true, true, 6, 1, 3, "", []⟩ []

/-- Behind the line that lacks a bracket stands another fault. -/
def lackingTree : Node :=
  .mk ⟨"program", true, false, true, 0, 0, 0, "a;\n[é;\n@ x;", []⟩
    [.mk ⟨"expression_statement", true, false, false, 0, 0, 0, "a;", []⟩
      [.mk ⟨"identifier", true, false, false, 0, 0, 0, "a", []⟩ [],
        .mk ⟨";", false, false, false, 1, 0, 1, ";", []⟩ []],
    .mk ⟨"expression_statement", true, false, true, 3, 1, 0, "[é;", []⟩
      [.mk ⟨"array", true, false, true, 3, 1, 0, "[é", []⟩
        [.mk ⟨"[", false, false, false, 3, 1, 0, "[", []⟩ [],
          .mk ⟨"identifier", true, false, false, 4, 1, 1, "é", []⟩ [],
          lackingBracket],
        .mk ⟨";", false, false, false, 6, 1, 3, ";", []⟩ []],
    .mk ⟨"ERROR", true, false, true, 8, 2, 0, "@ x", []⟩
      [.mk ⟨"decorator", true, false, false, 8, 2, 0, "@ x", ["decorator"]⟩
        [.mk ⟨"@", false, false, false, 8, 2, 0, "@", []⟩ [],
          .mk ⟨"identifier", true, false, false, 10, 2, 2, "x", []⟩ []]],
    .mk ⟨"empty_statement", true, false, false, 11, 2, 3, ";", []⟩
      [.mk ⟨";", false, false, false, 11, 2, 3, ";", []⟩ []]]

theorem lacking_bracket_told :
    lackingTree.ShowsDamage ∧
      lackingTree.syntaxError? = some "syntax error (missing ']') at line 2, column 4" := by
  have shows : lackingTree.ShowsDamage := by decide +kernel
  have foremost : lackingTree.IsForemostFault lackingBracket :=
    ⟨.inr rfl, lackingTree.preorder.take 8, lackingTree.preorder.drop 9, rfl, by decide +kernel⟩
  have text : lackingBracket.faultText = "syntax error (missing ']') at line 2, column 4" := by
    decide +kernel
  exact ⟨shows, ((syntax_error_told shows).2.1 _).2 ⟨_, foremost, text.symm⟩⟩

end Node

/-- A parser marks the nodes in which there is a fault, in whatever it reads. -/
def Parser.ShowsDamage (parser : Parser) : Prop :=
  ∀ dialect text, (parser dialect text).ShowsDamage

end StorefrontSurvey.Script
