/-
TagExpr/Expr/Inspect.lean

The inspected form of names and expressions: every constructor and field by name, with all
spans, names quoted.
-/
import TagExpr.Expr.Basic
import TagExpr.Text.Inspected
import TagExpr.Text.Quoted

namespace TagExpr

/-- The inspected form, such as `Ident` with `name: "x"` and `span: 3..7`. -/
def Ident.inspect (x : Ident) : String :=
  inspectRecord "Ident" [("name", quoted x.name), ("span", x.span.inspect)]

namespace Expr

/-- A node by its kind and span. -/
def inspectNode (kind : String) (s : Span) : String :=
  inspectRecord "Expr" [("kind", kind), ("span", s.inspect)]

/-- The inspected form of a whole tree. -/
def inspect : Expr → String
  | identifier x s => inspectNode ("Identifier(" ++ x.inspect ++ ")") s
  | implicitIterator s => inspectNode "ImplicitIterator" s
  | access base key s =>
    inspectNode (inspectRecord "Scoped" [("base", inspect base), ("name", key.inspect)]) s
  | filtered filter argument curried s =>
    inspectNode (inspectRecord "Filtered"
      [("filter", inspect filter), ("argument", inspect argument),
        ("curried", printBool curried)]) s

end Expr

end TagExpr
