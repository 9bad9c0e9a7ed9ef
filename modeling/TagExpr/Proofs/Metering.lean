/-
TagExpr/Proofs/Metering.lean

The evaluator with something done about each entry of its recursive function.

`eval` enters itself once for every part that it evaluates.  `evalAround` is the same function, with
`around` done about every entry; with nothing done it is `eval`.  What is done may need a larger
monad, in which the environment stands as it is.

How much recursion an evaluation takes is its extent: the number of entries, and how many of them
are open at a time.  The argument side of a node is entered only if the filter side has a value:

    extent (access base)     = (extent base).entered
    extent (filtered f a)    = ((extent f).followedBy (extent a)).entered    if f has a value,
                               (extent f).entered                            if it fails.

A metering tells what a part of an evaluation comes to in the larger monad, from what it comes to
plainly and from its extent.  It is given by what it says of parts that enter nothing, of parts
that follow each other and of one entry; then it holds of every evaluation.
-/
import TagExpr.Proofs.World

namespace TagExpr

/-! ### The evaluator with something done about its entries -/

section Around

variable {m : Type → Type} [Monad m] {α : Type}

/-- The evaluator, with `around` done about each entry of its recursive function. -/
def evalAround (env : Environment m α) (run : Nat)
    (around : ExceptT EvalError m (Value α) → ExceptT EvalError m (Value α)) :
    List Branch → Expr → ExceptT EvalError m (Value α)
  | _, .identifier x _ => around (env.lookup x.name)
  | _, .implicitIterator _ => around env.top
  | place, .access base key _ => around do
    return (← evalAround env run around (.base :: place) base).get key.name
  | place, .filtered filter argument curried span => around do
    let v ← evalAround env run around (.filter :: place) filter
    let a ← evalAround env run around (.argument :: place) argument
    useFilter env (.curried run place) filter curried span v a

/-- With nothing done about its entries it is the evaluator. -/
theorem evalAround_id (env : Environment m α) (run : Nat) (place : List Branch) (e : Expr) :
    evalAround env run id place e = eval env run place e := by
  induction e generalizing place with
  | identifier x s => rfl
  | implicitIterator s => rfl
  | access base key s ih => simp only [evalAround, eval, ih, id]
  | filtered filter argument curried s ihf iha => simp only [evalAround, eval, ihf, iha, id]

end Around

/-! ### Environments in a larger monad -/

section Lift

variable {m n : Type → Type} [Monad m] [Monad n] {α β : Type}

/-- The same environment in a larger monad. -/
def Environment.lift [MonadLiftT m n] (env : Environment m α) : Environment n α where
  lookup name := liftM (env.lookup name)
  top := liftM env.top
  apply f a := liftM (env.apply f a)
  curry f a := liftM (env.curry f a)
  report r := liftM (env.report r)

theorem run_request [LawfulMonad m] (x : m β) (next : β → ExceptT EvalError m (Value α)) :
    (liftM x >>= next).run = x >>= fun b => (next b).run :=
  ExceptT.run_bind_lift x next

variable [LawfulMonad m] [LawfulMonad n] [MonadLiftT m n] [LawfulMonadLiftT m n]

theorem run_lift_request (x : m (Value α)) :
    (liftM (liftM x : n (Value α)) : ExceptT EvalError n (Value α)).run
      = liftM (liftM x : ExceptT EvalError m (Value α)).run :=
  (liftM_map (m := m) (n := n) Except.ok x).symm

theorem bindArgument_lift (env : Environment m α) (identity : Identity) (filter : Expr)
    (span : Span) (f : Filter α (Value α)) (a : Value α) :
    (bindArgument (env.lift : Environment n α) identity filter span f a).run
      = liftM (bindArgument env identity filter span f a).run := by
  simp only [bindArgument, run_request, Environment.lift, liftM_bind]
  congr 1
  funext g
  -- bound or not, nothing more is asked
  rcases g with - | g
  · exact (liftM_pure (m := m) (n := n) _).symm
  · exact (liftM_pure (m := m) (n := n) _).symm

theorem applyFilter_lift (env : Environment m α) (span : Span) (f : Filter α (Value α))
    (a : Value α) :
    (applyFilter (env.lift : Environment n α) span f a).run
      = liftM (applyFilter env span f a).run := by
  simp only [applyFilter, run_request, Environment.lift, liftM_bind]
  congr 1
  funext r
  rcases r with err | - | v
  · exact (liftM_pure (m := m) (n := n) _).symm
  · -- the record of an application without value is one more request
    simp only [run_request, liftM_bind]
    congr 1
    funext _
    exact (liftM_pure (m := m) (n := n) _).symm
  · exact (liftM_pure (m := m) (n := n) _).symm

theorem useFilter_lift (env : Environment m α) (identity : Identity) (filter : Expr)
    (curried : Bool) (span : Span) (v a : Value α) :
    (useFilter (env.lift : Environment n α) identity filter curried span v a).run
      = liftM (useFilter env identity filter curried span v a).run := by
  unfold useFilter
  rcases v.filter? with - | f
  · exact (liftM_pure (m := m) (n := n) _).symm
  · cases curried with
    | true => exact bindArgument_lift env identity filter span f a
    | false => exact applyFilter_lift env span f a

end Lift

/-! ### Extents -/

/-- How much recursion takes place: the number of entries, and how many are open at a time. -/
@[ext] structure Extent where
  entries : Nat
  nesting : Nat
  deriving DecidableEq

namespace Extent

/-- Nothing is entered. -/
def none : Extent :=
  ⟨0, 0⟩

/-- One part after the other. -/
def followedBy (x y : Extent) : Extent :=
  ⟨x.entries + y.entries, max x.nesting y.nesting⟩

/-- One entry around a part. -/
def entered (x : Extent) : Extent :=
  ⟨x.entries + 1, x.nesting + 1⟩

@[simp] theorem followedBy_none (x : Extent) : x.followedBy none = x := by
  ext
  · rfl
  · exact Nat.max_eq_left (Nat.zero_le _)

end Extent

variable {σ α : Type}

/-- The extent of evaluating the expression that stands at `place`, from the world `w` on. -/
def extent (env : Environment (StateM σ) α) (run : Nat) (place : List Branch) (e : Expr) (w : σ) :
    Extent :=
  match e with
  | .identifier _ _ => Extent.none.entered
  | .implicitIterator _ => Extent.none.entered
  | .access base _ _ => (extent env run (.base :: place) base w).entered
  | .filtered filter argument _ _ =>
    match outcome env run (.filter :: place) filter w with
    | (.error _, _) => (extent env run (.filter :: place) filter w).entered
    | (.ok _, w₁) =>
      ((extent env run (.filter :: place) filter w).followedBy
        (extent env run (.argument :: place) argument w₁)).entered

/-! ### Meterings -/

/-- What is done about entries, in the monad `n`, and what it comes to: `Takes w o x y` says of a
part `y` of such an evaluation, begun in the world `w`, what it comes to when plainly its outcome is
`o` and its extent is `x`. -/
structure Metering (σ α : Type) (n : Type → Type) [Monad n] [MonadLiftT (StateM σ) n] where
  around : ExceptT EvalError n (Value α) → ExceptT EvalError n (Value α)
  Takes : σ → Outcome σ α → Extent → ExceptT EvalError n (Value α) → Prop
  lift : ∀ {w : σ} {x : ExceptT EvalError (StateM σ) (Value α)}
    {y : ExceptT EvalError n (Value α)}, y.run = liftM x.run → Takes w (outcomeOf x w) .none y
  error : ∀ {w w₁ : σ} {err : EvalError} {x : Extent} {y : ExceptT EvalError n (Value α)}
    {next : Value α → ExceptT EvalError n (Value α)},
    Takes w (.error err, w₁) x y → Takes w (.error err, w₁) x (y >>= next)
  value : ∀ {w w₁ : σ} {v : Value α} {o : Outcome σ α} {x x' : Extent}
    {y : ExceptT EvalError n (Value α)} {next : Value α → ExceptT EvalError n (Value α)},
    Takes w (.ok v, w₁) x y → Takes w₁ o x' (next v) → Takes w o (x.followedBy x') (y >>= next)
  entry : ∀ {w : σ} {o : Outcome σ α} {x : Extent} {y : ExceptT EvalError n (Value α)},
    Takes w o x y → Takes w o x.entered (around y)

namespace Metering

variable {n : Type → Type} [Monad n] [LawfulMonad n] [MonadLiftT (StateM σ) n]
  [LawfulMonadLiftT (StateM σ) n]

/-- **Every evaluation is metered by its outcome and its extent.** -/
theorem takes (M : Metering σ α n) (env : Environment (StateM σ) α) (run : Nat)
    (place : List Branch) (e : Expr) (w : σ) :
    M.Takes w (outcome env run place e w) (extent env run place e w)
      (evalAround env.lift run M.around place e) := by
  induction e generalizing place w with
  | identifier x s => exact M.entry (M.lift (run_lift_request (env.lookup x.name)))
  | implicitIterator s => exact M.entry (M.lift (run_lift_request env.top))
  | access base key s ih =>
    have hbase := ih (.base :: place) w
    rw [outcome_access, extent, evalAround]
    rcases hb : outcome env run (.base :: place) base w with ⟨err | v, w₁⟩
    · rw [hb] at hbase
      exact M.entry (M.error hbase)
    · rw [hb] at hbase
      rw [← Extent.followedBy_none (extent env run (.base :: place) base w)]
      -- taking the key enters nothing
      have hkey : (pure (v.get key.name) : ExceptT EvalError n (Value α)).run
          = liftM (pure (v.get key.name) : ExceptT EvalError (StateM σ) (Value α)).run :=
        (liftM_pure (m := StateM σ) (n := n) _).symm
      exact M.entry (M.value hbase (M.lift hkey))
  | filtered filter argument curried s ihf iha =>
    have hfilter := ihf (.filter :: place) w
    rw [outcome_filtered, extent, evalAround]
    rcases hf : outcome env run (.filter :: place) filter w with ⟨err | v, w₁⟩
    · rw [hf] at hfilter
      -- the argument side is not entered
      exact M.entry (M.error hfilter)
    · rw [hf] at hfilter
      refine M.entry (M.value hfilter ?_)
      have hargument := iha (.argument :: place) w₁
      rw [Outcome.andThen_ok]
      rcases ha : outcome env run (.argument :: place) argument w₁ with ⟨err | a, w₂⟩
      · rw [ha] at hargument
        exact M.error hargument
      · rw [ha] at hargument
        rw [← Extent.followedBy_none (extent env run (.argument :: place) argument w₁)]
        -- the node itself uses the filter without entering anything
        exact M.value hargument (M.lift (useFilter_lift env _ filter curried s v a))

end Metering

end TagExpr
