import StorefrontSurvey.Proofs.Outline.Entries
/-!
What export statements export by themselves. The expression of an assignment stands behind comments;
a comment of a markup text is not told from an expression, so that what is behind it is missed.
-/
namespace StorefrontSurvey.Outline

open Script (Node)

/-- The expression that a statement exports by itself, whatever comments stand ahead of it. -/
def givenExpression? (n : Node) : Option Node :=
  if n.hasToken "default" then n.field? "value"
  else if n.hasToken "=" then n.namedChildren.find? (¬·.IsComment)
  else none

/-- In an export assignment a comment of a markup text stands ahead of the expression. -/
def HidesExpression (n : Node) : Prop :=
  n.kind = "export_statement" ∧ n.hasToken "default" = false ∧ n.hasToken "=" = true ∧
    (n.namedChildren.find? (·.kind ≠ "comment")).map (·.kind) = some "html_comment"

instance (n : Node) : Decidable (HidesExpression n) :=
  inferInstanceAs (Decidable (n.kind = "export_statement" ∧ n.hasToken "default" = false ∧
    n.hasToken "=" = true ∧
    (n.namedChildren.find? (·.kind ≠ "comment")).map (·.kind) = some "html_comment"))

variable {n : Node}

theorem identifier_unbound (identifier : n.kind = "identifier") : bindings n = [] := by
  refine bindings_none ?_ ?_ <;> rw [identifier] <;> decide

/-- Where usual comments alone stand ahead, the first node behind them is the first behind any. -/
theorem find_expression {nodes : List Node}
    (open_front : (nodes.find? (·.kind ≠ "comment")).map (·.kind) ≠ some "html_comment") :
    nodes.find? (·.kind ≠ "comment") = nodes.find? (¬·.IsComment) := by
  have front := @Node.leading_eq nodes 1 fun m member markup => by
    rw [List.take_one, Option.mem_toList, List.head?_filter] at member
    exact open_front (by rw [member, Option.map_some, markup])
  have heads := congrArg List.head? front
  simpa only [List.head?_take, Nat.one_ne_zero, if_false, List.head?_filter] using heads.symm

theorem exported_value_given (statement : n.kind = "export_statement")
    (given : ¬HidesExpression n) : exportedValue? n = givenExpression? n := by
  rw [exportedValue?, givenExpression?, assignedValue?]
  cases default_token : n.hasToken "default" with
  | true => rfl
  | false =>
      cases assigns : n.hasToken "=" with
      | true =>
          exact find_expression fun markup => given ⟨statement, default_token, assigns, markup⟩
      | false => rfl

theorem exported_value_hidden (hidden : HidesExpression n) :
    ∃ c, exportedValue? n = some c ∧ c.kind = "html_comment" := by
  obtain ⟨_, no_default, assigns, markup⟩ := hidden
  obtain ⟨c, first, kind⟩ := Option.map_eq_some_iff.1 markup
  refine ⟨c, ?_, kind⟩
  rw [exportedValue?, no_default, assignedValue?, assigns]
  exact first

/-- Nothing is entered of an export statement that hides its expression. -/
theorem entry_hidden {place : Place} (hidden : HidesExpression place.node) :
    place.entry = if place.top then .declared ⟨true, true⟩ [] else .nothing := by
  obtain ⟨c, value, markup⟩ := exported_value_hidden hidden
  have unbound : bindings c = [] := by
    refine bindings_none ?_ ?_ <;> rw [markup] <;> decide
  have not_identifier : c.kind ≠ "identifier" := by
    rw [markup]
    decide
  rw [entry_export hidden.1, exportEntry, value]
  simp only [if_neg not_identifier, unbound]

end StorefrontSurvey.Outline
