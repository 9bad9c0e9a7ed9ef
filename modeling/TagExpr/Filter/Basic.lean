/-
TagExpr/Filter/Basic.lean

Applying and currying filters.

A filter of a fixed number of arguments runs when it is applied to its last one and refuses
to be applied earlier; currying binds an argument as long as another one is to follow.  So
with `n` arguments in all and `b` bound,

    apply runs the filter      iff  b + 1 = n
    curry gives a new filter   iff  b + 1 < n.

A custom filter does both by rules of its own.  What the actions of filters do is up to the
host, in any monad.
-/
import TagExpr.Filter.Error
import TagExpr.Value.Inspect

namespace TagExpr

/-- Outcome of a filter: a value, neither a value nor an error, or an error. -/
abbrev FilterResult (α : Type) : Type :=
  Except FilterError (Option (Value α))

/-! ### Filters of a fixed number of arguments -/

namespace FixedFilter

variable {α V : Type}

/-- A filter with nothing bound; it takes at least one argument. -/
def new (name : String) (arity : Nat) (action : α) : FixedFilter α V :=
  { name, arity := max arity 1, bound := [], action }

/-- The number of arguments that are missing. -/
def remaining (f : FixedFilter α V) : Nat :=
  f.arity - f.bound.length

/-- The filter with one more argument bound, if another one is to follow. -/
def bind? (f : FixedFilter α V) (a : V) : Option (FixedFilter α V) :=
  if f.remaining ≤ 1 then none else some { f with bound := f.bound ++ [a] }

/-- The error of a filter that is applied before its last argument. -/
def tooEarly (f : FixedFilter α V) : FilterError :=
  .new ("filter `" ++ f.name ++ "` expects " ++ toString f.arity ++ " arguments, got "
    ++ toString (f.bound.length + 1))

/-- The inspected form. -/
def inspect (f : FixedFilter α (Value α)) : String :=
  inspectRecord "FnFilter" [("name", quoted f.name), ("arity", toString f.arity),
    ("bound", bracketed (f.bound.map Value.inspect))]

end FixedFilter

/-! ### Filters in general -/

/-- What the actions of filters do, in the monad `m` of the host. -/
structure Host (m : Type → Type) (α : Type) where
  /-- Run a filter of a fixed number of arguments on all of them. -/
  run : α → List (Value α) → m (FilterResult α)
  /-- Apply a custom filter. -/
  apply : α → Value α → m (FilterResult α)
  /-- Curry a custom filter; without a filter it takes no further arguments. -/
  curry : α → Value α → m (Option (Filter α (Value α)))

namespace Filter

variable {m : Type → Type} [Monad m] {α : Type}

/-- Give a filter its last argument. -/
def apply (host : Host m α) (f : Filter α (Value α)) (a : Value α) : m (FilterResult α) :=
  match f with
  | fixed f =>
    if f.remaining ≠ 1 then pure (.error f.tooEarly)
    else host.run f.action (f.bound ++ [a])
  | custom _ action => host.apply action a

/-- Give a filter an argument that is not its last. -/
def curry (host : Host m α) (f : Filter α (Value α)) (a : Value α) :
    m (Option (Filter α (Value α))) :=
  match f with
  | fixed f => pure ((f.bind? a).map fixed)
  | custom _ action => host.curry action a

end Filter

end TagExpr
