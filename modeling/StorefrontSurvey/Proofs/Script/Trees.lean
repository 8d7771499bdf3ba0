import Mathlib.Order.Basic
import StorefrontSurvey.Script.Fault
/-!
Syntax trees apart from what is looked for in them: induction on children, the named children that
remain when comments are left out, and the places of nodes in a text.
-/
namespace StorefrontSurvey.Script.Node

/-- What holds of a node as soon as it holds of its children holds of all nodes. -/
theorem induct_children {motive : Node → Prop}
    (step : ∀ n, (∀ c ∈ n.children, motive c) → motive n) : ∀ n, motive n
  | mk head children => step (mk head children) fun c member =>
      have : sizeOf c < sizeOf children := List.sizeOf_lt_of_mem member
      induct_children step c
termination_by n => sizeOf n
decreasing_by
  simp only [mk.sizeOf_spec]
  omega

theorem mem_preorder_of_child {n c m : Node} (child : c ∈ n.children) (inside : m ∈ c.preorder) :
    m ∈ n.preorder := by
  rw [preorder_eq, preorder_all_eq]
  exact List.mem_cons_of_mem _ (List.mem_flatMap.2 ⟨c, child, inside⟩)

theorem mem_preorder_trans {n m k : Node} (inside : m ∈ n.preorder) (deeper : k ∈ m.preorder) :
    k ∈ n.preorder := by
  induction n using induct_children with
  | step n ih =>
      have split := inside
      rw [preorder_eq, List.mem_cons, preorder_all_eq, List.mem_flatMap] at split
      rcases split with rfl | ⟨c, child, inside⟩
      · exact deeper
      · exact mem_preorder_of_child child (ih c child inside)

/-- The nodes that are reached from a node through named children, in document order. -/
def namedBelow : Node → List Node
  | mk _ cs => namedBelowAll cs
where
  namedBelowAll : List Node → List Node
    | [] => []
    | c :: cs =>
      if c.head.named then c :: namedBelow c ++ namedBelowAll cs else namedBelowAll cs

theorem named_below_eq (n : Node) :
    n.namedBelow = n.namedChildren.flatMap fun c => c :: c.namedBelow := by
  cases n with
  | mk head children =>
      rw [namedBelow, namedChildren, Node.children]
      induction children with
      | nil => rfl
      | cons c rest ih =>
          rw [namedBelow.namedBelowAll, ih, List.filter_cons]
          split
          · rw [List.flatMap_cons]
          · rfl

/-! ### Comments -/

/-- A comment in the usual marks, or a line that starts as a comment of a markup text does. -/
def IsComment (n : Node) : Prop := n.kind = "comment" ∨ n.kind = "html_comment"

instance (n : Node) : Decidable n.IsComment :=
  inferInstanceAs (Decidable (n.kind = "comment" ∨ n.kind = "html_comment"))

theorem take_filter_of_all {α : Type} {p : α → Bool} {items : List α} {count : Nat}
    (all : ∀ a ∈ items.take count, p a = true) :
    (items.filter p).take count = items.take count := by
  induction items generalizing count with
  | nil => rfl
  | cons a rest ih =>
      cases count with
      | zero => rw [List.take_zero, List.take_zero]
      | succ count =>
          rw [List.take_succ_cons] at all ⊢
          rw [List.filter_cons_of_pos (all a List.mem_cons_self), List.take_succ_cons,
            ih fun b member => all b (List.mem_cons_of_mem _ member)]

/-- Comments of markup texts may be taken for arguments of a call as long as there are none. -/
theorem leading_eq {nodes : List Node} {count : Nat}
    (free : ∀ m ∈ (nodes.filter (·.kind ≠ "comment")).take count, m.kind ≠ "html_comment") :
    (nodes.filter (¬·.IsComment)).take count =
      (nodes.filter (·.kind ≠ "comment")).take count := by
  have twice : nodes.filter (¬·.IsComment) =
      (nodes.filter (·.kind ≠ "comment")).filter (·.kind ≠ "html_comment") := by
    rw [List.filter_filter]
    refine List.filter_congr fun m _ => ?_
    simp only [IsComment, not_or, Bool.decide_and, Bool.and_comm]
  rw [twice]
  exact take_filter_of_all fun m member => decide_eq_true (free m member)

/-! ### Places -/

/-- The first byte behind a node. -/
def stopByte (n : Node) : Nat := n.head.startByte + n.text.utf8ByteSize

/-- The children of a node lie within it, one behind another. -/
structure HoldsInOrder (n : Node) : Prop where
  starts : ∀ c ∈ n.children, n.head.startByte ≤ c.head.startByte
  stops : ∀ c ∈ n.children, c.stopByte ≤ n.stopByte
  ordered : n.children.Pairwise fun a b => a.stopByte ≤ b.head.startByte

/-- The nodes of a tree lie on its text as the tree holds them. -/
def IsLaidOut (tree : Node) : Prop := ∀ n ∈ tree.preorder, n.HoldsInOrder

instance (n : Node) : Decidable n.HoldsInOrder :=
  decidable_of_iff ((∀ c ∈ n.children, n.head.startByte ≤ c.head.startByte) ∧
      (∀ c ∈ n.children, c.stopByte ≤ n.stopByte) ∧
      n.children.Pairwise fun a b => a.stopByte ≤ b.head.startByte)
    ⟨fun ⟨starts, stops, ordered⟩ => ⟨starts, stops, ordered⟩,
      fun order => ⟨order.starts, order.stops, order.ordered⟩⟩

instance (tree : Node) : Decidable tree.IsLaidOut :=
  inferInstanceAs (Decidable (∀ n ∈ tree.preorder, n.HoldsInOrder))

/-- A node holds another one, or ends before it. -/
def ComesBefore (a b : Node) : Prop :=
  b ∈ preorder.preorderAll a.children ∨ a.stopByte ≤ b.head.startByte

theorem IsLaidOut.child {n c : Node} (laid : n.IsLaidOut) (child : c ∈ n.children) :
    c.IsLaidOut :=
  fun m inside => laid m (mem_preorder_of_child child inside)

theorem IsLaidOut.within {n : Node} (laid : n.IsLaidOut) :
    ∀ m ∈ n.preorder, n.head.startByte ≤ m.head.startByte ∧ m.stopByte ≤ n.stopByte := by
  induction n using induct_children with
  | step n ih =>
      have here : n.HoldsInOrder := laid n (by rw [preorder_eq]; exact List.mem_cons_self)
      intro m member
      rw [preorder_eq, List.mem_cons, preorder_all_eq, List.mem_flatMap] at member
      rcases member with rfl | ⟨c, child, inside⟩
      · exact ⟨Nat.le_refl _, Nat.le_refl _⟩
      · obtain ⟨start, stop⟩ := ih c child (laid.child child) m inside
        exact ⟨Nat.le_trans (here.starts c child) start, Nat.le_trans stop (here.stops c child)⟩

/-- In document order every node comes before those behind it. -/
theorem IsLaidOut.comes_before {n : Node} (laid : n.IsLaidOut) :
    n.preorder.Pairwise ComesBefore := by
  induction n using induct_children with
  | step n ih =>
      have here : n.HoldsInOrder := laid n (by rw [preorder_eq]; exact List.mem_cons_self)
      rw [preorder_eq, List.pairwise_cons]
      refine ⟨fun b inside => .inl inside, ?_⟩
      rw [preorder_all_eq, List.pairwise_flatMap]
      refine ⟨fun c child => ih c child (laid.child child), ?_⟩
      refine here.ordered.imp_of_mem fun {a b} first second apart x in_first y in_second => .inr ?_
      calc x.stopByte
          ≤ a.stopByte := ((laid.child first).within x in_first).2
        _ ≤ b.head.startByte := apart
        _ ≤ y.head.startByte := ((laid.child second).within y in_second).1

end StorefrontSurvey.Script.Node
