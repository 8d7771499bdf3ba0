import StorefrontSurvey.Script.Tree
/-!
The first fault of a syntax tree in document order: text that fits nowhere, or a lexeme that is
missing.
-/
namespace StorefrontSurvey.Script

/-- A fault with its place, counted from one; columns are in bytes. -/
structure Fault where
  /-- The kind of the missing lexeme, if one is missing. -/
  missing? : Option String
  line : Nat
  column : Nat
  deriving DecidableEq, Repr

inductive Damage where
  | at (fault : Fault)
  /-- The tree is damaged, but no node in it shows where. -/
  | somewhere
  deriving DecidableEq, Repr

def Damage.message : Damage → String
  | .at f =>
    let label := match f.missing? with
      | some kind => "missing '" ++ kind ++ "'"
      | none => "unexpected token"
    "syntax error (" ++ label ++ ") at line " ++ toString f.line ++ ", column " ++
      toString f.column
  | .somewhere => "syntax error"

namespace Node

def ownFault? (n : Node) : Option Fault :=
  if n.isError || n.head.missing then
    some { missing? := if n.head.missing then some n.kind else none
           line := n.head.row + 1, column := n.head.column + 1 }
  else none

def isSuspect (n : Node) : Bool := n.head.damaged || n.head.missing

/-- A node and all its descendants in document order. -/
def preorder : Node → List Node
  | mk h cs => mk h cs :: preorderAll cs
where
  preorderAll : List Node → List Node
    | [] => []
    | c :: cs => preorder c ++ preorderAll cs

theorem preorder_eq (n : Node) : n.preorder = n :: preorder.preorderAll n.children := by
  cases n with
  | mk head children => rw [preorder, Node.children]

theorem preorder_all_eq (nodes : List Node) :
    preorder.preorderAll nodes = nodes.flatMap preorder := by
  induction nodes with
  | nil => rfl
  | cons n rest ih => rw [preorder.preorderAll, ih, List.flatMap_cons]

theorem preorder_all_append (first second : List Node) :
    preorder.preorderAll (first ++ second) =
      preorder.preorderAll first ++ preorder.preorderAll second := by
  simp only [preorder_all_eq, List.flatMap_append]

/-- Fewer nodes have fewer descendants. -/
theorem preorder_all_sublist {fewer more : List Node} (among : fewer.Sublist more) :
    (preorder.preorderAll fewer).Sublist (preorder.preorderAll more) := by
  induction among with
  | slnil => exact List.Sublist.refl _
  | cons n _ ih => exact ih.trans (List.sublist_append_right _ _)
  | cons_cons n _ ih => exact (List.Sublist.refl _).append ih

/-- A stack gets smaller when a node on it gives way to some of its children. -/
theorem preorder_all_lt {n : Node} {some_children : List Node} (stack : List Node)
    (among : some_children.Sublist n.children) :
    (preorder.preorderAll (some_children ++ stack)).length <
      (preorder.preorderAll (n :: stack)).length := by
  have fewer := (preorder_all_sublist among).length_le
  rw [preorder_all_append, preorder.preorderAll, preorder_eq]
  simp only [List.length_append, List.length_cons]
  omega

/-- The first fault met by a search that takes its nodes from a stack. Of a node's children, those
that may have a fault in them go on top of the stack, the first one uppermost. -/
def faultOn? : List Node → Option Fault
  | [] => none
  | n :: stack =>
    match n.ownFault? with
    | some fault => some fault
    | none => faultOn? (n.children.filter isSuspect ++ stack)
termination_by stack => (preorder.preorderAll stack).length
decreasing_by exact preorder_all_lt stack List.filter_sublist

def damage? (n : Node) : Option Damage :=
  if n.head.damaged then
    some (match faultOn? [n] with
      | some f => .at f
      | none => .somewhere)
  else none

/-- A description of the first fault of a tree. -/
def syntaxError? (n : Node) : Option String := n.damage?.map Damage.message

end Node

def Node.unquoted (n : Node) : String :=
  let cs := n.text.toList
  if 2 ≤ cs.length then String.ofList ((cs.drop 1).dropLast) else ""

end StorefrontSurvey.Script
