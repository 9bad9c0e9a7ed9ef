/-
TagExpr/Text/Inspected.lean

The common parts of inspected forms: booleans, lists between brackets, and records with
their fields by name.

    bracketed [a, b]                    =  [a, b]
    inspectRecord R [(x, a), (y, b)]    =  R { x: a, y: b }
-/

namespace TagExpr

/-- `true` or `false`. -/
def printBool (b : Bool) : String :=
  if b then "true" else "false"

/-- A list of texts between brackets. -/
def bracketed (texts : List String) : String :=
  "[" ++ ", ".intercalate texts ++ "]"

/-- A record for inspection: its name, then each field with its text. -/
def inspectRecord (name : String) (fields : List (String × String)) : String :=
  name ++ " \x7b " ++ ", ".intercalate (fields.map fun (field, text) => field ++ ": " ++ text)
    ++ " \x7d"

end TagExpr
