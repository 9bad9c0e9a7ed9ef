/-
TagExpr/Expr/Basic.lean

Expressions inside a template tag.

An expression is a name, the implicit iterator `.`, a key looked up in a base (`user.name`)
or a filter given an argument.  A filter of several arguments gets them one by one: all but
the last are curried, which binds the argument without running the filter, and the last one
is applied.  So `f(a, b)` is

    filtered (filtered f a curried) b applied

and `call` builds this chain.  Every node stores its own span; the constructors below give a
node the span that covers its parts, and `withSpan` replaces it.
-/
import TagExpr.Span

namespace TagExpr

/-- A name and where it stands. -/
structure Ident where
  name : String
  span : Span
  deriving DecidableEq

/-- A name without a place in any source. -/
def Ident.ofName (name : String) : Ident :=
  ⟨name, Span.dummy⟩

/-- An expression; the last field of each constructor is the span of the node. -/
inductive Expr where
  /-- A plain name, looked up in the context. -/
  | identifier (ident : Ident) (span : Span)
  /-- The implicit iterator `.`, the innermost value of the context. -/
  | implicitIterator (span : Span)
  /-- A key of a base value, `base.key`. -/
  | access (base : Expr) (key : Ident) (span : Span)
  /-- A filter given an argument; a curried one only binds it. -/
  | filtered (filter argument : Expr) (curried : Bool) (span : Span)
  deriving DecidableEq

namespace Expr

/-- The span stored on the node. -/
def span : Expr → Span
  | identifier _ s => s
  | implicitIterator s => s
  | access _ _ s => s
  | filtered _ _ _ s => s

/-- The same node with another span; its parts keep theirs. -/
def withSpan (s : Span) : Expr → Expr
  | identifier x _ => identifier x s
  | implicitIterator _ => implicitIterator s
  | access base key _ => access base key s
  | filtered filter argument curried _ => filtered filter argument curried s

/-! ### Building expressions -/

/-- A name at a span. -/
def identifierAt (name : String) (s : Span) : Expr :=
  identifier ⟨name, s⟩ s

/-- `base.key`; the span covers the base and the key. -/
def mkAccess (base : Expr) (key : Ident) : Expr :=
  access base key (base.span.merge key.span)

/-- `filter(argument)`, curried or applied; the span covers both. -/
def mkFiltered (filter argument : Expr) (curried : Bool) : Expr :=
  filtered filter argument curried (filter.span.merge argument.span)

/-- `head(a₁, …, aₙ)`: every argument but the last is curried, the last one is applied.  There is no
call without arguments. -/
def call (head : Expr) : List Expr → Option Expr
  | [] => none
  | [a] => some (mkFiltered head a false)
  | a :: b :: rest => (mkFiltered head a true).call (b :: rest)

/-! ### Size -/

/-- Number of nodes. -/
def nodeCount : Expr → Nat
  | identifier _ _ => 1
  | implicitIterator _ => 1
  | access base _ _ => 1 + base.nodeCount
  | filtered filter argument _ _ => 1 + filter.nodeCount + argument.nodeCount

/-- Number of nodes on the longest path from the root. -/
def depth : Expr → Nat
  | identifier _ _ => 1
  | implicitIterator _ => 1
  | access base _ _ => 1 + base.depth
  | filtered filter argument _ _ => 1 + max filter.depth argument.depth

theorem depth_pos (e : Expr) : 0 < e.depth := by
  cases e <;> simp only [depth] <;> omega

theorem depth_le_nodeCount (e : Expr) : e.depth ≤ e.nodeCount := by
  induction e with
  | identifier => simp [depth, nodeCount]
  | implicitIterator => simp [depth, nodeCount]
  | access base _ _ ih => simp only [depth, nodeCount]; omega
  | filtered f a _ _ ihf iha => simp only [depth, nodeCount]; omega

@[simp] theorem span_withSpan (s : Span) (e : Expr) : (e.withSpan s).span = s := by
  cases e <;> rfl

end Expr

end TagExpr
