/-
TagExpr/Value/Inspect.lean

The inspected form of values.

Texts are quoted and other scalars written as users see them, items and entries stand
between brackets with commas, keys are written as they are, and a cluster shows its name only.
-/
import TagExpr.Value.Basic

namespace TagExpr

namespace Value

variable {α : Type}

mutual

/-- The inspected form of a value. -/
def inspect : Value α → String
  | .none => "None"
  | .scalar (.str s) => quoted s
  | .scalar s => s.print
  | .sequence items => bracketed (inspectItems items)
  | .mapping entries => "\x7b" ++ ", ".intercalate (inspectEntries entries) ++ "\x7d"
  | .cluster c => "<cluster:" ++ c.name ++ ">"

/-- The inspected forms of the items of a sequence. -/
def inspectItems : List (Value α) → List String
  | [] => []
  | x :: xs => inspect x :: inspectItems xs

/-- The inspected forms of the entries of a mapping. -/
def inspectEntries : List (String × Value α) → List String
  | [] => []
  | (k, x) :: xs => (k ++ ": " ++ inspect x) :: inspectEntries xs

end

theorem inspectEntries_eq_map (entries : List (String × Value α)) :
    inspectEntries entries = entries.map fun e => e.1 ++ ": " ++ e.2.inspect := by
  induction entries with
  | nil => simp [inspectEntries]
  | cons e es ih => simp [inspectEntries, ih]

end Value

end TagExpr
