/-
TagExpr/Evaluation/Basic.lean

Evaluating expressions.

A name is looked up, the implicit iterator is the top of the context, and a key is taken
from the value of its base.  A filtered node runs its filter side, then its argument side,
and only then looks whether the filter side gave a filter; a curried node binds the argument
and gives a new cluster, any other applies the filter.  The first failing node in this order
decides, and nothing after it is evaluated:

    eval (filtered f a) = do let v ← eval f; let x ← eval a; use v x

Requests to the context, the use of filters and the log go through an environment in any
monad, so an evaluation can be run plainly, recorded or counted by choosing the environment.
-/
import TagExpr.Context.Basic
import TagExpr.Evaluation.Error
import TagExpr.Expr.Print
import TagExpr.Filter.Basic

namespace TagExpr

/-! ### What an evaluation reports -/

/-- An entry of the log of an evaluation. -/
inductive Record where
  /-- The evaluation of an expression, given as text, is about to begin. -/
  | opened (expr : String)
  | entered
  /-- An applied filter gave neither a value nor an error. -/
  | noValue (filter : String)
  /-- The evaluation failed. -/
  | failed (kind : EvalErrorKind) (span : Span) (message : String)
  | exited
  deriving DecidableEq

/-- The failure of an evaluation as its log has it. -/
def EvalError.record (e : EvalError) : Record :=
  .failed e.kind e.span e.message

/-! ### The evaluator -/

/-- All that an evaluation asks of its surroundings. -/
structure Environment (m : Type → Type) (α : Type) extends Context m α where
  apply : Filter α (Value α) → Value α → m (FilterResult α)
  curry : Filter α (Value α) → Value α → m (Option (Filter α (Value α)))
  report : Record → m Unit

/-- The environment of a context, the host's filters and a log. -/
def Environment.of {m : Type → Type} [Monad m] {α : Type} (context : Context m α)
    (host : Host m α) (report : Record → m Unit) : Environment m α :=
  { context with apply := Filter.apply host, curry := Filter.curry host, report }

section Eval

variable {m : Type → Type} [Monad m] {α : Type}

/-- The error of a node whose filter side, an expression, gave a value that exposes no filter. -/
def refusal (filter : Expr) (v : Value α) (span : Span) : EvalError :=
  if v.isNone then .missingFilter filter.print span
  else .notAFilter filter.print v.kindName span

/-- Bind an argument; the new filter becomes a cluster with the identity given. -/
def bindArgument (env : Environment m α) (identity : Identity) (filter : Expr) (span : Span)
    (f : Filter α (Value α)) (a : Value α) : ExceptT EvalError m (Value α) := do
  match ← env.curry f a with
  | some g => return Value.ofFilter identity g
  | none => throw (.tooManyArguments filter.print span)

/-- Apply a filter; no value and no error is nothing, and is logged. -/
def applyFilter (env : Environment m α) (span : Span) (f : Filter α (Value α)) (a : Value α) :
    ExceptT EvalError m (Value α) := do
  match ← env.apply f a with
  | .ok (some v) => return v
  | .ok none =>
    env.report (.noValue f.name)
    return .none
  | .error e => throw (.filterExecution e span)

/-- What a filtered node does with the values of its two sides. -/
def useFilter (env : Environment m α) (identity : Identity) (filter : Expr) (curried : Bool)
    (span : Span) (v a : Value α) : ExceptT EvalError m (Value α) :=
  match v.filter? with
  | none => throw (refusal filter v span)
  | some f =>
    if curried then bindArgument env identity filter span f a
    else applyFilter env span f a

/-- The value of the expression that stands at `place`, in the evaluation numbered `run`. -/
def eval (env : Environment m α) (run : Nat) :
    List Branch → Expr → ExceptT EvalError m (Value α)
  | _, .identifier x _ => env.lookup x.name
  | _, .implicitIterator _ => env.top
  | place, .access base key _ => do
    return (← eval env run (.base :: place) base).get key.name
  | place, .filtered filter argument curried span => do
    let v ← eval env run (.filter :: place) filter
    let a ← eval env run (.argument :: place) argument
    useFilter env (.curried run place) filter curried span v a

/-- Evaluate an expression and log it: its text first, its failure, if any, last. -/
def evaluate (env : Environment m α) (run : Nat) (e : Expr) : m (Except EvalError (Value α)) := do
  env.report (.opened e.print)
  env.report .entered
  let result ← (eval env run [] e).run
  if let .error err := result then
    env.report err.record
  env.report .exited
  return result

end Eval

end TagExpr
