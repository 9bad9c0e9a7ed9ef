/-
TagExpr/Proofs/Recursion.lean

Depth and size of an expression bound the recursion of its evaluation.

The recursion of the evaluator is metered in two ways.  `evalCounted` counts the entries of its
recursive function and keeps the greatest number that have been open at a time.  `evalWithin` has
a budget of entries that may be open, and gives nothing where it would have to go beyond.  Both go
by the extent of the plain evaluation, which the size of the expression bounds:

    evalCounted         counts `entries`, and `nesting` as the deepest,
    evalWithin budget   is eval if nesting ≤ budget, and gives nothing otherwise,

    entries ≤ nodeCount,   nesting ≤ depth,   with equality if the evaluation succeeds.

An evaluation that fails may stay below, since what comes after the failure is not entered.
-/
import TagExpr.Proofs.Arity
import TagExpr.Proofs.CallSize
import TagExpr.Proofs.Metering

namespace TagExpr

variable {σ α : Type}

/-! ### Counts of entries -/

/-- The entries of a recursive function: how many there were, how many of them are open now, and how
many have been open at a time. -/
@[ext] structure Calls where
  entered : Nat
  running : Nat
  deepest : Nat
  running_le : running ≤ deepest
  deriving DecidableEq

namespace Calls

/-- Nothing has been entered. -/
def none : Calls :=
  ⟨0, 0, 0, Nat.le_refl 0⟩

/-- One more entry. -/
def enter (c : Calls) : Calls :=
  ⟨c.entered + 1, c.running + 1, max c.deepest (c.running + 1), Nat.le_max_right _ _⟩

/-- The innermost entry is over. -/
def leave (c : Calls) : Calls :=
  { c with running := c.running - 1, running_le := (Nat.sub_le _ 1).trans c.running_le }

/-- After a part of the extent `x`. -/
def after (c : Calls) (x : Extent) : Calls :=
  { entered := c.entered + x.entries
    running := c.running
    deepest := max c.deepest (c.running + x.nesting)
    running_le := c.running_le.trans (Nat.le_max_left _ _) }

theorem after_none (c : Calls) : c.after .none = c := by
  ext
  · rfl
  · rfl
  · exact Nat.max_eq_left c.running_le

theorem after_after (c : Calls) (x y : Extent) :
    (c.after x).after y = c.after (x.followedBy y) := by
  ext
  · exact Nat.add_assoc _ _ _
  · rfl
  · simp only [after, Extent.followedBy]
    omega

theorem none_after (x : Extent) : none.after x = ⟨x.entries, 0, x.nesting, Nat.zero_le _⟩ := by
  ext
  · exact Nat.zero_add _
  · rfl
  · simp only [after, none]
    omega

theorem leave_after_enter (c : Calls) (x : Extent) :
    (c.enter.after x).leave = c.after x.entered := by
  ext
  · simp only [leave, after, enter, Extent.entered]
    omega
  · rfl
  · simp only [leave, after, enter, Extent.entered]
    omega

end Calls

/-! ### Counting and spending -/

section Metered

variable {m : Type → Type} [Monad m]

/-- Count an entry around `x`, which is over whatever `x` comes to. -/
def counting (x : ExceptT EvalError (StateT Calls m) (Value α)) :
    ExceptT EvalError (StateT Calls m) (Value α) :=
  ExceptT.mk do
    modify Calls.enter
    let result ← x.run
    modify Calls.leave
    return result

/-- The evaluator that counts the entries of its recursive function. -/
def evalCounted (env : Environment m α) (run : Nat) (place : List Branch) (e : Expr) :
    StateT Calls m (Except EvalError (Value α)) :=
  (evalAround env.lift run counting place e).run

/-- Spend one unit of a budget on `x`; without a unit left there is no result. -/
def spending (x : ExceptT EvalError (ReaderT Nat (OptionT m)) (Value α)) :
    ExceptT EvalError (ReaderT Nat (OptionT m)) (Value α) :=
  ExceptT.mk fun
    | 0 => OptionT.fail
    | budget + 1 => x.run.run budget

/-- The evaluator with a budget for its recursion: every entry spends a unit while it is open. -/
def evalWithin (env : Environment m α) (run budget : Nat) (place : List Branch) (e : Expr) :
    m (Option (Except EvalError (Value α))) :=
  ((evalAround env.lift run spending place e).run.run budget).run

end Metered

/-! ### What the two meterings come to -/

/-- Counting goes by the extent: the counts of a part are added to those before it. -/
def Metering.counted : Metering σ α (StateT Calls (StateM σ)) where
  around := counting
  Takes w o x y := ∀ c, answer (y.run.run c) w = ((o.1, c.after x), o.2)
  lift := by
    intro w x y hy c
    rw [hy, Calls.after_none]
    rfl
  error := by
    intro w w₁ err x y next h c
    rw [ExceptT.run_bind, StateT.run_bind, answer_bind, h c]
    rfl
  value := by
    intro w w₁ v o x x' y next h hnext c
    rw [ExceptT.run_bind, StateT.run_bind, answer_bind, h c, ← Calls.after_after]
    exact hnext (c.after x)
  entry := by
    intro w o x y h c
    -- the entry is counted before the part and left after it, whatever the part comes to
    have hentry : answer ((counting y).run.run c) w
        = (((answer (y.run.run c.enter) w).1.1, (answer (y.run.run c.enter) w).1.2.leave),
            (answer (y.run.run c.enter) w).2) := rfl
    rw [hentry, h c.enter, Calls.leave_after_enter]

theorem answer_bind_budget (y : ExceptT EvalError (ReaderT Nat (OptionT (StateM σ))) (Value α))
    (next : Value α → ExceptT EvalError (ReaderT Nat (OptionT (StateM σ))) (Value α))
    (budget : Nat) (w : σ) :
    answer ((y >>= next).run.run budget).run w
      = match answer (y.run.run budget).run w with
        | (some (.ok v), w₁) => answer ((next v).run.run budget).run w₁
        | (some (.error err), w₁) => (some (.error err), w₁)
        | (none, w₁) => (none, w₁) := by
  rw [ExceptT.run_bind, ReaderT.run_bind, OptionT.run_bind, Option.elimM, answer_bind]
  rcases answer (y.run.run budget).run w with ⟨- | err | v, w₁⟩
  · rfl
  · rfl
  · rfl

/-- What a part with the outcome `o` comes to on a budget: the same if the budget is enough for its
nesting, and nothing otherwise. -/
inductive Outcome.OnBudget (o : Outcome σ α) (nesting budget : Nat) :
    Option (Except EvalError (Value α)) × σ → Prop
  | enough (h : nesting ≤ budget) : o.OnBudget nesting budget (some o.1, o.2)
  | short (h : budget < nesting) (w : σ) : o.OnBudget nesting budget (none, w)

namespace Outcome.OnBudget

variable {o : Outcome σ α} {nesting budget : Nat} {r : Option (Except EvalError (Value α)) × σ}

theorem eq_of_le (h : o.OnBudget nesting budget r) (hle : nesting ≤ budget) :
    r = (some o.1, o.2) := by
  cases h with
  | enough _ => rfl
  | short hlt _ => exact absurd hle (Nat.not_le_of_lt hlt)

theorem eq_none_of_lt (h : o.OnBudget nesting budget r) (hlt : budget < nesting) :
    r.1 = none := by
  cases h with
  | enough hle => exact absurd hle (Nat.not_le_of_lt hlt)
  | short _ _ => rfl

/-- With one unit more one entry more can be open. -/
theorem succ (h : o.OnBudget nesting budget r) : o.OnBudget (nesting + 1) (budget + 1) r := by
  cases h with
  | enough hle => exact .enough (Nat.succ_le_succ hle)
  | short hlt w => exact .short (Nat.succ_lt_succ hlt) w

/-- A part before it for which the budget is enough makes no difference. -/
theorem max_of_le {before : Nat} (h : o.OnBudget nesting budget r) (hbefore : before ≤ budget) :
    o.OnBudget (max before nesting) budget r := by
  cases h with
  | enough hle => exact .enough (Nat.max_le.mpr ⟨hbefore, hle⟩)
  | short hlt w => exact .short (Nat.lt_of_lt_of_le hlt (Nat.le_max_right _ _)) w

end Outcome.OnBudget

/-- A budget goes by the extent: a part needs as many units as its entries are nested. -/
def Metering.within : Metering σ α (ReaderT Nat (OptionT (StateM σ))) where
  around := spending
  Takes w o x y := ∀ budget, o.OnBudget x.nesting budget (answer (y.run.run budget).run w)
  lift := by
    intro w x y hy budget
    rw [hy]
    exact .enough (Nat.zero_le budget)
  error := by
    intro w w₁ err x y next h budget
    have hfirst := h budget
    rw [answer_bind_budget]
    -- a part that runs out of its budget ends the whole
    generalize answer (y.run.run budget).run w = r at hfirst
    cases hfirst with
    | enough hle => exact .enough hle
    | short hlt w' => exact .short hlt w'
  value := by
    intro w w₁ v o x x' y next h hnext budget
    have hfirst := h budget
    rw [answer_bind_budget]
    generalize answer (y.run.run budget).run w = r at hfirst
    cases hfirst with
    | enough hle => exact (hnext budget).max_of_le hle
    | short hlt w' => exact .short (Nat.lt_of_lt_of_le hlt (Nat.le_max_left _ _)) w'
  entry := by
    intro w o x y h budget
    -- with no unit left there is no result, and every entry is nested in itself
    cases budget with
    | zero => exact .short (Nat.zero_lt_succ x.nesting) w
    | succ budget => exact (h budget).succ

section Bounds

variable {env : Environment (StateM σ) α} {run : Nat} {place : List Branch}

theorem answer_evalCounted (e : Expr) (c : Calls) (w : σ) :
    answer ((evalCounted env run place e).run c) w
      = (((outcome env run place e w).1, c.after (extent env run place e w)),
          (outcome env run place e w).2) :=
  Metering.counted.takes env run place e w c

theorem onBudget_evalWithin (e : Expr) (budget : Nat) (w : σ) :
    (outcome env run place e w).OnBudget (extent env run place e w).nesting budget
      (answer (evalWithin env run budget place e) w) :=
  Metering.within.takes env run place e w budget

/-! ### Bounds of the extent -/

theorem extent_le (place : List Branch) (e : Expr) (w : σ) :
    (extent env run place e w).entries ≤ e.nodeCount ∧
      (extent env run place e w).nesting ≤ e.depth := by
  induction e generalizing place w with
  | identifier => exact ⟨Nat.le_refl 1, Nat.le_refl 1⟩
  | implicitIterator => exact ⟨Nat.le_refl 1, Nat.le_refl 1⟩
  | access base key s ih =>
    obtain ⟨hentries, hnesting⟩ := ih (.base :: place) w
    simp only [extent, Extent.entered, Expr.nodeCount, Expr.depth]
    omega
  | filtered filter argument curried s ihf iha =>
    obtain ⟨hentries, hnesting⟩ := ihf (.filter :: place) w
    rw [extent]
    rcases outcome env run (.filter :: place) filter w with ⟨err | v, w₁⟩
    · -- the argument side is not entered
      simp only [Extent.entered, Expr.nodeCount, Expr.depth]
      omega
    · obtain ⟨hentries', hnesting'⟩ := iha (.argument :: place) w₁
      simp only [Extent.entered, Extent.followedBy, Expr.nodeCount, Expr.depth]
      omega

/-- An evaluation that succeeds enters every node. -/
theorem extent_of_ok {e : Expr} {w w' : σ} {v : Value α}
    (h : outcome env run place e w = (.ok v, w')) :
    extent env run place e w = ⟨e.nodeCount, e.depth⟩ := by
  induction e generalizing place w w' v with
  | identifier => rfl
  | implicitIterator => rfl
  | access base key s ih =>
    obtain ⟨vb, hb, -⟩ := outcome_access_eq_ok h
    simp only [extent, ih hb, Extent.entered, Expr.nodeCount, Expr.depth, Nat.add_comm]
  | filtered filter argument curried s ihf iha =>
    -- both sides have values, so both are entered and neither stops early
    obtain ⟨vf, w₁, a, w₂, g, hf, ha, -, -⟩ := outcome_filtered_eq_ok h
    simp only [extent, hf, ihf hf, iha ha, Extent.entered, Extent.followedBy, Expr.nodeCount,
      Expr.depth, Extent.mk.injEq]
    omega

end Bounds

/-! ### The bounds together -/

/-- **Depth and node count bound the recursion of the evaluator.**  Its recursive function is
entered at most once for every node of an expression, with no more entries open at a time than the
expression is deep, and exactly so often and so deep if the evaluation succeeds.  A budget that
covers the entries open at a time changes nothing, and on a smaller one there is no result.  So the
depth is always enough, and with one unit less no evaluation succeeds.  The depth is at most the
node count, which is less than two to the depth.  Both are known of a call: it adds one node for
each argument, and its depth is the greatest that its head and its arguments reach. -/
theorem eval_recursion_bounded (env : Environment (StateM σ) α) (run : Nat)
    (place : List Branch) (e : Expr) (w : σ) :
    let o := outcome env run place e w
    let within (budget : Nat) := answer (evalWithin env run budget place e) w
    evalAround env run id place e = eval env run place e ∧
    (∃ calls : Calls,
      answer ((evalCounted env run place e).run .none) w = ((o.1, calls), o.2) ∧
      calls.entered ≤ e.nodeCount ∧ calls.deepest ≤ e.depth ∧
      (∀ v, o.1 = .ok v → calls.entered = e.nodeCount ∧ calls.deepest = e.depth) ∧
      ∀ budget, (calls.deepest ≤ budget → within budget = (some o.1, o.2)) ∧
        (budget < calls.deepest → (within budget).1 = none)) ∧
    within e.depth = (some o.1, o.2) ∧ (∀ v, (within (e.depth - 1)).1 ≠ some (.ok v)) ∧
    1 ≤ e.depth ∧ e.depth ≤ e.nodeCount ∧ e.nodeCount ≤ 2 ^ e.depth - 1 ∧
    ∀ (h : Expr) (args : List Expr), args ≠ [] → ∃ c, h.call args = some c ∧
      c.nodeCount = h.nodeCount + args.length + (args.map Expr.nodeCount).sum ∧
      IsGreatest {d | d = h.depth + args.length ∨
        ∃ i a, args[i]? = some a ∧ d = a.depth + (args.length - i)} c.depth := by
  intro o within
  -- all bounds come from the extent, which both meterings go by
  have hle : (extent env run place e w).entries ≤ e.nodeCount ∧
      (extent env run place e w).nesting ≤ e.depth := extent_le place e w
  have hbudget (budget : Nat) :
      o.OnBudget (extent env run place e w).nesting budget (within budget) :=
    onBudget_evalWithin e budget w
  have hok {v : Value α} (hv : o.1 = .ok v) :
      extent env run place e w = ⟨e.nodeCount, e.depth⟩ := by
    have heq : outcome env run place e w = (.ok v, o.2) := Prod.ext hv rfl
    exact extent_of_ok heq
  refine ⟨evalAround_id env run place e, ⟨_, answer_evalCounted e .none w, ?_⟩, ?_, ?_,
    e.depth_pos, e.depth_le_nodeCount, ?_, ?_⟩
  · -- counted
    rw [Calls.none_after]
    refine ⟨hle.1, hle.2, ?_, fun budget => ?_⟩
    · intro v hv
      rw [hok hv]
      exact ⟨rfl, rfl⟩
    · exact ⟨(hbudget budget).eq_of_le, (hbudget budget).eq_none_of_lt⟩
  · -- on a budget of the depth, and of one unit less
    exact (hbudget e.depth).eq_of_le hle.2
  · intro v hv
    rcases Nat.lt_or_ge (e.depth - 1) (extent env run place e w).nesting with hlt | henough
    · rw [(hbudget (e.depth - 1)).eq_none_of_lt hlt] at hv
      cases hv
    · -- a value on this budget is the plain one, which takes the whole depth
      rw [(hbudget (e.depth - 1)).eq_of_le henough, Option.some.injEq] at hv
      have hdeep : (extent env run place e w).nesting = e.depth := by rw [hok hv]
      have hpos := e.depth_pos
      omega
  · exact Nat.le_sub_one_of_lt e.nodeCount_lt_two_pow_depth
  · intro h args hargs
    obtain ⟨c, hc⟩ := Option.isSome_iff_exists.mp (Expr.isSome_call (h := h) hargs)
    exact ⟨c, hc, Expr.nodeCount_call hc, Expr.isGreatest_depth_call hc⟩

/-- `join(a, b)` enters the evaluator five times, three deep, and can do with a budget of three. -/
theorem eval_recursion_bounded_join :
    let name (s : String) : Expr := .identifierAt s .dummy
    let env := Environment.of joinContext countingHost fun _ => pure ()
    let e := Expr.mkFiltered (.mkFiltered (name "join") (name "a") true) (name "b") false
    let v : Value Unit := .sequence [.string "a", .string "b"]
    outcome env 0 [] e 0 = (.ok v, 1) ∧
    (∃ calls, answer ((evalCounted env 0 [] e).run .none) 0 = ((.ok v, calls), 1) ∧
      calls.entered = 5 ∧ calls.deepest = 3 ∧
      answer (evalWithin env 0 4 [] e) 0 = (some (.ok v), 1) ∧
      (answer (evalWithin env 0 2 [] e) 0).1 = none) ∧
    answer (evalWithin env 0 3 [] e) 0 = (some (.ok v), 1) ∧
    (∃ c, (name "f").call [e, name "c"] = some c ∧ c.nodeCount = 9 ∧ c.depth = 5) := by
  intro name env e v
  have houtcome : outcome env 0 [] e 0 = (.ok v, 1) := rfl
  obtain ⟨-, ⟨calls, hcounted, -, -, hexact, hbudget⟩, hdepth, -, -, -, -, hcall⟩ :=
    eval_recursion_bounded env 0 [] e 0
  obtain ⟨hentered, hdeepest⟩ := hexact v rfl
  obtain ⟨c, hc, hcount, hmem, hbound⟩ := hcall (name "f") [e, name "c"] (by simp)
  refine ⟨houtcome, ⟨calls, hcounted, hentered, hdeepest, ?_, ?_⟩, hdepth, c, hc, hcount, ?_⟩
  · exact (hbudget 4).1 (by rw [hdeepest]; decide)
  · exact (hbudget 2).2 (by rw [hdeepest]; decide)
  · -- `join(a, b)` reaches deeper than the head and the other argument
    refine Nat.le_antisymm ?_ (hbound (.inr ⟨0, e, rfl, rfl⟩))
    rcases hmem with hd | ⟨i, a, ha, hd⟩
    · rw [hd]
      decide
    · rcases i with - | - | i
      · obtain rfl := Option.some.inj ha
        exact Nat.le_of_eq hd
      · obtain rfl := Option.some.inj ha
        rw [hd]
        decide
      · cases ha

end TagExpr
