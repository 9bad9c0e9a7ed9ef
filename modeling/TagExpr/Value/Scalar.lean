/-
TagExpr/Value/Scalar.lean

Scalars: booleans, integers of 64 bits, floating-point numbers and texts.

Scalars of different kinds are never equal, so the integer 1 is not the number 1.0;
floating-point numbers compare as IEEE 754 says, so a scalar equals itself unless it is NaN.
-/
import TagExpr.Decimal.Form
import TagExpr.Text.Inspected
import TagExpr.Text.Quoted

namespace TagExpr

/-- A boolean, a number or a text. -/
inductive Scalar where
  | bool (b : Bool)
  | int (n : Int64)
  | float (x : Binary64)
  | str (s : String)

namespace Scalar

/-- The kind of a scalar, as error messages name it. -/
def kindName : Scalar → String
  | bool _ => "bool"
  | int _ => "int"
  | float _ => "float"
  | str _ => "string"

/-- A scalar as users see it; a text stands for itself. -/
def print : Scalar → String
  | bool b => printBool b
  | int n => toString n.toInt
  | float x => x.print
  | str s => s

/-- The inspected form of a scalar, with its kind. -/
def inspect : Scalar → String
  | bool b => "Bool(" ++ printBool b ++ ")"
  | int n => "Int(" ++ toString n.toInt ++ ")"
  | float x => "Float(" ++ x.inspect ++ ")"
  | str s => "Str(" ++ quoted s ++ ")"

/-- Equality of scalars. -/
def equal : Scalar → Scalar → Bool
  | bool a, bool b => a = b
  | int m, int n => m = n
  | float x, float y => x.equal y
  | str s, str t => s = t
  | _, _ => false

/-- The scalar is a floating-point number that is not a number. -/
def isNaN : Scalar → Bool
  | float x => x.isNaN
  | _ => false

theorem equal_self (s : Scalar) : s.equal s = !s.isNaN := by
  cases s <;> simp [equal, isNaN, Binary64.equal_self]

theorem equal_comm (s t : Scalar) : s.equal t = t.equal s := by
  cases s <;> cases t <;> simp [equal, eq_comm, Binary64.equal_comm]

theorem equal_trans {s t u : Scalar} (hst : s.equal t = true) (htu : t.equal u = true) :
    s.equal u = true := by
  cases s <;> cases t <;> simp [equal] at hst <;> cases u <;> simp [equal] at htu ⊢
  · exact hst.trans htu
  · exact hst.trans htu
  · exact Binary64.equal_trans hst htu
  · exact hst.trans htu

end Scalar

end TagExpr
