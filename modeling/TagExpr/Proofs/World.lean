/-
TagExpr/Proofs/World.lean

Evaluation in a world.

A context, filters and a log may depend on a world of any kind and change it, such as the
counter of a filter or the record of a test.  What an evaluation comes to in a world `w` is
a value or an error, together with the world after it.  A context and filters that are plain
functions of their arguments are the case of a world with one state.

The laws of the evaluator are stated here once, one for each constructor.  They say in which
world each side of a node runs:

    outcome (filtered f a) w = (outcome f w).andThen fun v w₁ =>
                                 (outcome a w₁).andThen fun x w₂ => used v x w₂
-/
import TagExpr.Evaluation.Basic

namespace TagExpr

variable {σ α β : Type}

/-! ### Answers -/

/-- The answer to a request in the world `w`, and the world after it. -/
def answer (x : StateM σ β) (w : σ) : β × σ :=
  x.run w

@[simp] theorem answer_pure (b : β) (w : σ) : answer (pure b) w = (b, w) := rfl

theorem answer_bind {γ : Type} (x : StateM σ β) (next : β → StateM σ γ) (w : σ) :
    answer (x >>= next) w = answer (next (answer x w).1) (answer x w).2 := rfl

/-! ### Outcomes -/

/-- A value or an error, and the world after it. -/
abbrev Outcome (σ α : Type) : Type :=
  Except EvalError (Value α) × σ

namespace Outcome

/-- Go on with the value, in the world after it; an error stays as it is. -/
def andThen (o : Outcome σ α) (next : Value α → σ → Outcome σ α) : Outcome σ α :=
  match o with
  | (.ok v, w) => next v w
  | (.error err, w) => (.error err, w)

/-- The error, if there is one. -/
def error? (o : Outcome σ α) : Option EvalError :=
  match o.1 with
  | .ok _ => none
  | .error err => some err

@[simp] theorem andThen_ok (v : Value α) (w : σ) (next : Value α → σ → Outcome σ α) :
    andThen (.ok v, w) next = next v w := rfl

@[simp] theorem andThen_error (err : EvalError) (w : σ) (next : Value α → σ → Outcome σ α) :
    andThen (.error err, w) next = (.error err, w) := rfl

@[simp] theorem error?_ok (v : Value α) (w : σ) : error? (.ok v, w) = none := rfl

@[simp] theorem error?_error (err : EvalError) (w : σ) :
    error? ((.error err, w) : Outcome σ α) = some err := rfl

theorem error?_eq_some_iff {o : Outcome σ α} {err : EvalError} :
    o.error? = some err ↔ o.1 = .error err := by
  obtain ⟨err' | v, w⟩ := o <;> simp [error?]

end Outcome

/-- What a step of an evaluation comes to in the world `w`. -/
def outcomeOf (x : ExceptT EvalError (StateM σ) (Value α)) (w : σ) : Outcome σ α :=
  answer x.run w

theorem outcomeOf_bind (x : ExceptT EvalError (StateM σ) (Value α))
    (next : Value α → ExceptT EvalError (StateM σ) (Value α)) (w : σ) :
    outcomeOf (x >>= next) w = (outcomeOf x w).andThen fun v w₁ => outcomeOf (next v) w₁ := by
  rw [outcomeOf, ExceptT.run_bind, answer_bind, ← outcomeOf]
  rcases outcomeOf x w with ⟨err | v, w'⟩
  · rfl
  · rfl

/-- A request is answered in the world, and the rest goes on in the world after it. -/
theorem outcomeOf_request (x : StateM σ β)
    (next : β → ExceptT EvalError (StateM σ) (Value α)) (w : σ) :
    outcomeOf (liftM x >>= next) w = outcomeOf (next (answer x w).1) (answer x w).2 := rfl

/-! ### The laws of the evaluator -/

section Laws

variable (env : Environment (StateM σ) α) (run : Nat)

/-- What the expression that stands at `place` comes to in the world `w`. -/
def outcome (place : List Branch) (e : Expr) (w : σ) : Outcome σ α :=
  outcomeOf (eval env run place e) w

/-- What a filtered node comes to with the values of its sides, in the world after them. -/
def used (place : List Branch) (filter : Expr) (curried : Bool) (span : Span) (v a : Value α)
    (w : σ) : Outcome σ α :=
  outcomeOf (useFilter env (.curried run place) filter curried span v a) w

variable {env run} {place : List Branch} {w : σ}

theorem outcome_identifier (x : Ident) (s : Span) :
    outcome env run place (.identifier x s) w
      = (.ok (answer (env.lookup x.name) w).1, (answer (env.lookup x.name) w).2) := rfl

theorem outcome_implicitIterator (s : Span) :
    outcome env run place (.implicitIterator s) w
      = (.ok (answer env.top w).1, (answer env.top w).2) := rfl

theorem outcome_access (base : Expr) (key : Ident) (s : Span) :
    outcome env run place (.access base key s) w
      = (outcome env run (.base :: place) base w).andThen fun v w₁ =>
          (.ok (v.get key.name), w₁) := by
  rw [outcome, eval, outcomeOf_bind]
  rfl

/-- A key has a value only if its base has one. -/
theorem outcome_access_eq_ok {base : Expr} {key : Ident} {s : Span} {v : Value α} {w' : σ}
    (h : outcome env run place (.access base key s) w = (.ok v, w')) :
    ∃ vb, outcome env run (.base :: place) base w = (.ok vb, w') ∧ v = vb.get key.name := by
  rw [outcome_access] at h
  rcases hb : outcome env run (.base :: place) base w with ⟨err | vb, w₁⟩
  · simp [hb] at h
  · simp only [hb, Outcome.andThen_ok, Prod.mk.injEq, Except.ok.injEq] at h
    obtain ⟨hv, hw⟩ := h
    exact ⟨vb, by rw [hw], hv.symm⟩

theorem outcome_filtered (filter argument : Expr) (curried : Bool) (s : Span) :
    outcome env run place (.filtered filter argument curried s) w
      = (outcome env run (.filter :: place) filter w).andThen fun v w₁ =>
          (outcome env run (.argument :: place) argument w₁).andThen fun a w₂ =>
            used env run place filter curried s v a w₂ := by
  rw [outcome, eval, outcomeOf_bind]
  simp only [outcomeOf_bind]
  rfl

end Laws

/-! ### The use of a filter -/

section Use

variable (env : Environment (StateM σ) α) (run : Nat)

/-- What binding an argument comes to, from the answer of the filter and the world after it. -/
def boundOutcome (place : List Branch) (filter : Expr) (span : Span) :
    Option (Filter α (Value α)) × σ → Outcome σ α
  | (some g, w) => (.ok (Value.ofFilter (.curried run place) g), w)
  | (none, w) => (.error (.tooManyArguments filter.print span), w)

/-- What applying a filter comes to, from its result and the world after it. -/
def appliedOutcome (name : String) (span : Span) : FilterResult α × σ → Outcome σ α
  | (.ok (some v), w) => (.ok v, w)
  | (.ok none, w) => (.ok .none, (answer (env.report (.noValue name)) w).2)
  | (.error err, w) => (.error (.filterExecution err span), w)

variable {env run} {place : List Branch} {filter : Expr} {span : Span} {v a : Value α} {w : σ}

theorem used_of_filter?_eq_none {curried : Bool} (hv : v.filter? = none) :
    used env run place filter curried span v a w = (.error (refusal filter v span), w) := by
  simp only [used, useFilter, hv]
  rfl

theorem used_curried {g : Filter α (Value α)} (hv : v.filter? = some g) :
    used env run place filter true span v a w
      = boundOutcome run place filter span (answer (env.curry g a) w) := by
  simp only [used, useFilter, hv, if_true, bindArgument, outcomeOf_request]
  rcases answer (env.curry g a) w with ⟨- | k, w'⟩
  · rfl
  · rfl

theorem used_applied {g : Filter α (Value α)} (hv : v.filter? = some g) :
    used env run place filter false span v a w
      = appliedOutcome env g.name span (answer (env.apply g a) w) := by
  simp only [used, useFilter, hv, Bool.false_eq_true, if_false, applyFilter, outcomeOf_request]
  rcases answer (env.apply g a) w with ⟨err | - | v', w'⟩
  · rfl
  · rfl
  · rfl

/-- A filtered node has a value only if both of its sides have one and the filter side exposes
a filter. -/
theorem outcome_filtered_eq_ok {argument : Expr} {curried : Bool} {w' : σ}
    (h : outcome env run place (.filtered filter argument curried span) w = (.ok v, w')) :
    ∃ vf w₁ a w₂ g, outcome env run (.filter :: place) filter w = (.ok vf, w₁) ∧
      outcome env run (.argument :: place) argument w₁ = (.ok a, w₂) ∧ vf.filter? = some g ∧
      used env run place filter curried span vf a w₂ = (.ok v, w') := by
  rw [outcome_filtered] at h
  -- each error on the way would be that of the node
  rcases hf : outcome env run (.filter :: place) filter w with ⟨err | vf, w₁⟩
  · simp [hf] at h
  · rcases ha : outcome env run (.argument :: place) argument w₁ with ⟨err | a, w₂⟩
    · simp [hf, ha] at h
    · simp only [hf, ha, Outcome.andThen_ok] at h
      rcases hv : vf.filter? with - | g
      · simp [used_of_filter?_eq_none hv] at h
      · exact ⟨vf, w₁, a, w₂, g, rfl, ha, hv, h⟩

/-- A curried node that has a value has made it: a cluster with the node's own identity. -/
theorem exists_eq_ofFilter_of_curried {argument : Expr} {w' : σ}
    (h : outcome env run place (.filtered filter argument true span) w = (.ok v, w')) :
    ∃ g, v = Value.ofFilter (.curried run place) g := by
  obtain ⟨vf, w₁, a, w₂, g, -, -, hg, hu⟩ := outcome_filtered_eq_ok h
  rw [used_curried hg] at hu
  rcases hk : answer (env.curry g a) w₂ with ⟨- | k, w₃⟩
  · simp [hk, boundOutcome] at hu
  · simp only [hk, boundOutcome, Prod.mk.injEq, Except.ok.injEq] at hu
    exact ⟨k, hu.1.symm⟩

end Use

/-! ### Whole evaluations -/

section Evaluate

variable (env : Environment (StateM σ) α) (run : Nat)

/-- The world in which the evaluation of an expression begins: its text is in the log. -/
def openedWorld (e : Expr) (w : σ) : σ :=
  (answer (env.report .entered) (answer (env.report (.opened e.print)) w).2).2

/-- The world that an evaluation leaves: a failure is in the log. -/
def closedWorld (o : Outcome σ α) : σ :=
  match o with
  | (.ok _, w) => (answer (env.report .exited) w).2
  | (.error err, w) => (answer (env.report .exited) (answer (env.report err.record) w).2).2

theorem answer_evaluate (e : Expr) (w : σ) :
    answer (evaluate env run e) w
      = ((outcome env run [] e (openedWorld env e w)).1,
          closedWorld env (outcome env run [] e (openedWorld env e w))) := by
  simp only [evaluate, answer_bind]
  rw [← openedWorld, ← outcomeOf, ← outcome]
  rcases outcome env run [] e (openedWorld env e w) with ⟨err | v, w'⟩
  · rfl
  · rfl

end Evaluate

end TagExpr
