/-
TagExpr/Value/Equality.lean

Equality of values.

Values of different kinds differ.  Sequences compare item by item, mappings entry by entry,
and clusters by identity alone, whatever they hold.
-/
import TagExpr.Value.Basic

namespace TagExpr

namespace Value

variable {α : Type}

mutual

/-- Equality of two values. -/
def equal : Value α → Value α → Bool
  | .none, .none => true
  | .scalar s, .scalar t => s.equal t
  | .sequence xs, .sequence ys => equalItems xs ys
  | .mapping xs, .mapping ys => equalEntries xs ys
  | .cluster c, .cluster d => c.identity = d.identity
  | _, _ => false

/-- Equality of two lists of values. -/
def equalItems : List (Value α) → List (Value α) → Bool
  | [], [] => true
  | x :: xs, y :: ys => equal x y && equalItems xs ys
  | _, _ => false

/-- Equality of two lists of entries. -/
def equalEntries : List (String × Value α) → List (String × Value α) → Bool
  | [], [] => true
  | (k, x) :: xs, (l, y) :: ys => k = l && (equal x y && equalEntries xs ys)
  | _, _ => false

end

end Value

end TagExpr
