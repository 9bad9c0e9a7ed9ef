/-
TagExpr/Value/Basic.lean

Runtime values, clusters and filters.

A value is nothing at all, a scalar, a sequence, a mapping or a cluster.  A cluster is an
object of the host: it is opaque, only its identity tells it from others, and it may answer
keys and expose a filter.  A filter of a fixed number of arguments keeps those that are
bound already.

What a filter of the host computes is no value; a filter holds its description, of any
type `α`, and whoever runs the filter says what it means.
-/
import TagExpr.Value.Scalar
import TagExpr.Value.Entries

namespace TagExpr

/-! ### Identity of clusters -/

/-- A step from an expression to one of its parts. -/
inductive Branch where
  | base
  | filter
  | argument
  deriving DecidableEq

/-- What a cluster is: made by the host, or made by evaluation when it bound an argument.  The
evaluations of a session are numbered, and one evaluation makes at most one cluster at each
place of its expression, so number and place tell any two of the latter apart. -/
inductive Identity where
  | host (serial : Nat)
  | curried (run : Nat) (place : List Branch)
  deriving DecidableEq

/-! ### Filters, clusters, values -/

/-- A filter of a fixed number of arguments, some of them bound. -/
structure FixedFilter (α V : Type) where
  name : String
  /-- The number of arguments in all. -/
  arity : Nat
  /-- The arguments bound so far, in order. -/
  bound : List V
  /-- What the filter does with all its arguments. -/
  action : α

/-- A filter: of a fixed number of arguments, or with rules of its own. -/
inductive Filter (α V : Type) where
  | fixed (f : FixedFilter α V)
  | custom (name : String) (action : α)

/-- An object of the host. -/
structure Cluster (α V : Type) where
  identity : Identity
  name : String
  /-- The filter that the object exposes. -/
  filter : Option (Filter α V)
  /-- The keys that the object answers. -/
  get? : String → Option V
  /-- Whether sections of a template render for the object. -/
  truthy : Bool

/-- A runtime value. -/
inductive Value (α : Type) where
  /-- No value; what undefined names and missing keys give. -/
  | none
  | scalar (s : Scalar)
  | sequence (items : List (Value α))
  /-- Entries in the order of their keys, as `Value.ofEntries` puts them. -/
  | mapping (entries : List (String × Value α))
  | cluster (c : Cluster α (Value α))

instance (α : Type) : Inhabited (Value α) :=
  ⟨.none⟩

/-- The name of a filter. -/
def Filter.name {α V : Type} : Filter α V → String
  | fixed f => f.name
  | custom name _ => name

namespace Value

variable {α : Type}

/-- A boolean value. -/
def bool (b : Bool) : Value α := .scalar (.bool b)

/-- An integer value. -/
def int (n : Int64) : Value α := .scalar (.int n)

/-- A floating-point value. -/
def float (x : Binary64) : Value α := .scalar (.float x)

/-- A text value. -/
def string (s : String) : Value α := .scalar (.str s)

/-- The mapping of a list of entries; of a repeated key the last value counts. -/
def ofEntries (entries : List (String × Value α)) : Value α :=
  .mapping (Entries.ofList entries)

/-- A filter as a value: a cluster that exposes the filter and nothing else. -/
def ofFilter (identity : Identity) (f : Filter α (Value α)) : Value α :=
  .cluster
    { identity
      name := f.name
      filter := some f
      get? := fun _ => Option.none
      truthy := true }

/-! ### Looking at a value -/

/-- There is no value. -/
def isNone : Value α → Bool
  | .none => true
  | _ => false

/-- The scalar, if the value is one. -/
def scalar? : Value α → Option Scalar
  | .scalar s => some s
  | _ => Option.none

/-- The text, if the value is one. -/
def string? : Value α → Option String
  | .scalar (.str s) => some s
  | _ => Option.none

/-- The integer, if the value is one. -/
def int? : Value α → Option Int64
  | .scalar (.int n) => some n
  | _ => Option.none

/-- The boolean, if the value is one. -/
def bool? : Value α → Option Bool
  | .scalar (.bool b) => some b
  | _ => Option.none

/-- The cluster, if the value is one. -/
def cluster? : Value α → Option (Cluster α (Value α))
  | .cluster c => some c
  | _ => Option.none

/-- The filter that the value exposes; only clusters have one. -/
def filter? (v : Value α) : Option (Filter α (Value α)) :=
  v.cluster?.bind (·.filter)

/-- What a key gives; nothing for a missing key and for values without keys. -/
def get (v : Value α) (key : String) : Value α :=
  match v with
  | .mapping entries => (Entries.lookup key entries).getD .none
  | .cluster c => (c.get? key).getD .none
  | _ => .none

/-- The kind of a value, as error messages name it. -/
def kindName : Value α → String
  | .none => "none"
  | .scalar s => s.kindName
  | .sequence _ => "sequence"
  | .mapping _ => "mapping"
  | .cluster _ => "cluster"

@[simp] theorem filter?_ofFilter (i : Identity) (f : Filter α (Value α)) :
    (ofFilter i f).filter? = some f := rfl

theorem isNone_iff {v : Value α} : v.isNone = true ↔ v = .none := by
  cases v <;> simp [isNone]

end Value

end TagExpr
