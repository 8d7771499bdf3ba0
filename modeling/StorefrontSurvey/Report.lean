/-!
How far an answer can be trusted, and what its reader is warned of.
-/
namespace StorefrontSurvey

inductive Confidence where
  | high
  | medium
  | low
  deriving DecidableEq, Repr, Inhabited

/-- A warning always says something. -/
structure Warning where
  code : String
  message : String
  message_ne : message ≠ ""
  deriving DecidableEq, Repr

theorem append_ne_empty_left {a b : String} (h : a ≠ "") : a ++ b ≠ "" := fun both =>
  h (String.append_eq_empty_iff.1 both).1

theorem append_ne_empty_right {a b : String} (h : b ≠ "") : a ++ b ≠ "" := fun both =>
  h (String.append_eq_empty_iff.1 both).2

end StorefrontSurvey
