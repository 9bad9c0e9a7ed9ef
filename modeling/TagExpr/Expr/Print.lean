/-
TagExpr/Expr/Print.lean

Expressions written as template syntax.

A chain of curried arguments that ends in an applied one is written as one call, `f(a, b)`; a
chain that is never applied ends in dots, `f(a, ...)`.  The text of a curried node depends
on where it stands: as the head of a further argument its call stays open.  With `opened` an
expression is written as such a head:

    write opened f       = f(                 for f not curried
    write opened (f ⟨a⟩) = write opened f ++ a ++ ", "
-/
import TagExpr.Expr.Basic

namespace TagExpr

namespace Expr

/-- What follows a written expression: as the head of a call, an opening parenthesis. -/
def opening (opened : Bool) : String :=
  if opened then "(" else ""

/-- What follows the last argument written so far: a comma where the call goes on, dots where
a curried chain ends, and nothing before the closing parenthesis of an applied argument. -/
def closing (curried opened : Bool) : String :=
  match curried, opened with
  | true, true => ", "
  | true, false => ", ...)"
  | false, _ => ")" ++ opening opened

/-- An expression as template syntax, alone or as the head of a call that stays open. -/
def write (opened : Bool) : Expr → String
  | identifier x _ => x.name ++ opening opened
  | implicitIterator _ => "." ++ opening opened
  | access (implicitIterator _) key _ => "." ++ key.name ++ opening opened
  | access base key _ => write false base ++ "." ++ key.name ++ opening opened
  | filtered filter argument curried _ =>
    write true filter ++ write false argument ++ closing curried opened

/-- An expression as template syntax. -/
def print (e : Expr) : String :=
  e.write false

end Expr

end TagExpr
