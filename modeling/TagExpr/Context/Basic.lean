/-
TagExpr/Context/Basic.lean

Contexts: what names and the implicit iterator mean.

A context answers two requests, in any monad.  Both are total: a name bound nowhere is no
value.  The usual context is a stack of values, of which the innermost that gives a name a
value decides, so a scope that does not bind a name, or binds it to nothing, lets it through:

    lookup name [s₁, s₂, …] = the first of s₁.get name, s₂.get name, … that is not nothing.
-/
import TagExpr.Value.Inspect

namespace TagExpr

/-- The meaning of names and of the implicit iterator. -/
structure Context (m : Type → Type) (α : Type) where
  lookup : String → m (Value α)
  top : m (Value α)

/-- A stack of scopes, the innermost first. -/
structure ContextStack (α : Type) where
  scopes : List (Value α)

namespace ContextStack

variable {α : Type}

/-- The stack without scopes. -/
def empty : ContextStack α :=
  ⟨[]⟩

/-- The stack with a further, innermost scope. -/
def push (c : ContextStack α) (v : Value α) : ContextStack α :=
  ⟨v :: c.scopes⟩

/-- A stack of one scope. -/
def ofValue (v : Value α) : ContextStack α :=
  empty.push v

/-- The stack without its innermost scope; the empty stack stays empty. -/
def pop (c : ContextStack α) : ContextStack α :=
  ⟨c.scopes.tail⟩

/-- Number of scopes. -/
def depth (c : ContextStack α) : Nat :=
  c.scopes.length

/-- There are no scopes. -/
def isEmpty (c : ContextStack α) : Bool :=
  c.scopes.isEmpty

/-- What a name means in a list of scopes. -/
def lookupIn (name : String) : List (Value α) → Value α
  | [] => .none
  | s :: rest => if (s.get name).isNone then lookupIn name rest else s.get name

/-- What a name means. -/
def lookup (c : ContextStack α) (name : String) : Value α :=
  lookupIn name c.scopes

/-- The innermost scope, or nothing. -/
def top (c : ContextStack α) : Value α :=
  c.scopes.head?.getD .none

/-- The inspected form, innermost scope first. -/
def inspect (c : ContextStack α) : String :=
  bracketed (c.scopes.map Value.inspect)

/-- A stack as a context of any monad. -/
def toContext {m : Type → Type} [Pure m] (c : ContextStack α) : Context m α where
  lookup name := pure (c.lookup name)
  top := pure c.top

theorem lookup_push (c : ContextStack α) (v : Value α) (name : String) :
    (c.push v).lookup name = if (v.get name).isNone then c.lookup name else v.get name := rfl

theorem lookup_push_of_get_eq_none {c : ContextStack α} {v : Value α} {name : String}
    (h : v.get name = .none) : (c.push v).lookup name = c.lookup name := by
  simp [lookup_push, h, Value.isNone]

end ContextStack

end TagExpr
