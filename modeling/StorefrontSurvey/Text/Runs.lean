/-!
Sets of code points as runs in increasing order, searched by halving.
-/
namespace StorefrontSurvey.Text

/-- Whether a number lies in one of the runs from index `low` up to index `high`. -/
def inRuns (runs : Array (Nat × Nat)) (n : Nat) : Nat → Nat → Nat → Bool
  | 0, _, _ => false
  | fuel + 1, low, high =>
    if low < high then
      let middle := (low + high) / 2
      match runs[middle]? with
      | none => false
      | some run =>
        if n < run.1 then inRuns runs n fuel low middle
        else if run.2 < n then inRuns runs n fuel (middle + 1) high
        else true
    else false

end StorefrontSurvey.Text
