/-
TagExpr/Decimal/Form.lean

Floating-point numbers as text.

The digits are the shortest that read back as the number.  A form says which powers of ten
of the leading digit are written positionally, the others getting an exponent, and whether a
whole number keeps `.0`:

    shown       1e21 = 1000000000000000000000    1e-7 = 0.0000001    1.0 = 1
    inspected   1e21 = 1e21                      1e-7 = 1e-7         1.0 = 1.0
-/
import TagExpr.Decimal.Shortest

namespace TagExpr

/-- How a decimal is laid out. -/
structure DecimalForm where
  /-- The leading powers written without an exponent. -/
  positional : Int → Bool
  /-- What is written after a whole number. -/
  afterWhole : String

namespace DecimalForm

/-- Numbers shown to users have no exponent, and whole numbers no point. -/
def shown : DecimalForm where
  positional _ := true
  afterWhole := ""

/-- Numbers shown for inspection have an exponent below `10 ^ (-4)` and from `10 ^ 16` on, and keep
a point otherwise. -/
def inspected : DecimalForm where
  positional e := -4 ≤ e && e < 16
  afterWhole := ".0"

/-- Digits with the point after the first `before` of them, zeros filled in on either side. -/
def writePositional (form : DecimalForm) (digits : List Char) (before : Int) : String :=
  if before ≤ 0 then
    "0." ++ String.ofList (List.replicate (-before).toNat '0' ++ digits)
  else if digits.length ≤ before then
    String.ofList (digits ++ List.replicate (before - digits.length).toNat '0') ++ form.afterWhole
  else
    String.ofList (digits.take before.toNat) ++ "." ++ String.ofList (digits.drop before.toNat)

/-- Digits with the point after the first of them and an exponent. -/
def writeScientific (digits : List Char) (e : Int) : String :=
  let tail := digits.drop 1
  String.ofList (digits.take 1) ++ (if tail = [] then "" else "." ++ String.ofList tail)
    ++ "e" ++ toString e

/-- A decimal other than zero. -/
def write (form : DecimalForm) (d : Decimal) : String :=
  let digits := Nat.toDigits 10 d.coefficient
  let before := digits.length + d.exponent
  if form.positional (before - 1) then form.writePositional digits before
  else writeScientific digits (before - 1)

/-- A floating-point number; NaN has no sign. -/
def writeBinary64 (form : DecimalForm) (x : Binary64) : String :=
  let sign := if x.isNegative then "-" else ""
  if x.isNaN then "NaN"
  else if x.isInfinite then sign ++ "inf"
  else if x.isZero then sign ++ "0" ++ form.afterWhole
  else sign ++ form.write x.shortest

end DecimalForm

/-- A floating-point number as users see it. -/
def Binary64.print (x : Binary64) : String :=
  DecimalForm.shown.writeBinary64 x

/-- A floating-point number in inspected form. -/
def Binary64.inspect (x : Binary64) : String :=
  DecimalForm.inspected.writeBinary64 x

end TagExpr
