/-
TagExpr/Proofs/FirstFailure.lean

Which node is to blame for a failed evaluation.

`visits` lists the nodes of an expression in post-order: the filter side of a node, then its
argument side, then the node itself.  Each stands with the place and the world in which its
evaluation begins.  A filtered node fails when both of its sides have values and these can
not be used (`FailsWith`, one case for each of the four reasons).  The law of this file is

    error of an evaluation = error of the first visit that fails,

by induction on the expression.  So an error of the filter side hides one of the argument
side, which hides one of the node, and an error found deep inside goes through all the nodes
above it unchanged.
-/
import TagExpr.Proofs.World

namespace TagExpr

variable {σ α : Type}

/-! ### Nodes in post-order -/

/-- A node of an expression, where it stands, and the world in which its evaluation begins. -/
structure Visit (σ : Type) where
  place : List Branch
  node : Expr
  world : σ

section Visits

variable (env : Environment (StateM σ) α) (run : Nat)

/-- The nodes of an expression in post-order.  The argument side begins where the filter side
has ended. -/
def visits (place : List Branch) (e : Expr) (w : σ) : List (Visit σ) :=
  match e with
  | .identifier x s => [⟨place, .identifier x s, w⟩]
  | .implicitIterator s => [⟨place, .implicitIterator s, w⟩]
  | .access base key s => visits (.base :: place) base w ++ [⟨place, .access base key s, w⟩]
  | .filtered filter argument curried s =>
    visits (.filter :: place) filter w
      ++ visits (.argument :: place) argument (outcome env run (.filter :: place) filter w).2
      ++ [⟨place, .filtered filter argument curried s, w⟩]

/-- The values of the two sides of a filtered node and the world after them, if both have one. -/
def sides? (place : List Branch) (filter argument : Expr) (w : σ) :
    Option (Value α × Value α × σ) :=
  match outcome env run (.filter :: place) filter w with
  | (.error _, _) => none
  | (.ok v, w₁) =>
    match outcome env run (.argument :: place) argument w₁ with
    | (.error _, _) => none
    | (.ok a, w₂) => some (v, a, w₂)

/-! ### Failing nodes -/

/-- A filtered node whose sides have the values `v` and `a` fails, for one of four reasons. -/
inductive FailsWith : Visit σ → EvalError → Prop
  /-- The filter side is no value at all. -/
  | missingFilter {place filter argument curried span w v a w'}
      (sides : sides? env run place filter argument w = some (v, a, w'))
      (noFilter : v.filter? = none) (noValue : v = .none) :
      FailsWith ⟨place, .filtered filter argument curried span, w⟩
        (.missingFilter filter.print span)
  /-- The filter side is a value that exposes no filter. -/
  | notAFilter {place filter argument curried span w v a w'}
      (sides : sides? env run place filter argument w = some (v, a, w'))
      (noFilter : v.filter? = none) (isValue : v ≠ .none) :
      FailsWith ⟨place, .filtered filter argument curried span, w⟩
        (.notAFilter filter.print v.kindName span)
  /-- The node is curried and the filter does not bind the argument. -/
  | tooManyArguments {place filter argument span w v a w' g}
      (sides : sides? env run place filter argument w = some (v, a, w'))
      (isFilter : v.filter? = some g) (refused : (answer (env.curry g a) w').1 = none) :
      FailsWith ⟨place, .filtered filter argument true span, w⟩
        (.tooManyArguments filter.print span)
  /-- The node is applied and the filter fails. -/
  | filterExecution {place filter argument span w v a w' g err}
      (sides : sides? env run place filter argument w = some (v, a, w'))
      (isFilter : v.filter? = some g) (failed : (answer (env.apply g a) w').1 = .error err) :
      FailsWith ⟨place, .filtered filter argument false span, w⟩ (.filterExecution err span)

/-- The error of a visit, if it fails. -/
def failure? (n : Visit σ) : Option EvalError :=
  match n.node with
  | .filtered filter argument curried span =>
    (sides? env run n.place filter argument n.world).bind fun (v, a, w) =>
      (used env run n.place filter curried span v a w).error?
  | _ => none

/-- The error `err` is that of the first visit of a list that fails. -/
def FirstFailure (ns : List (Visit σ)) (err : EvalError) : Prop :=
  ∃ before n after, ns = before ++ n :: after ∧ FailsWith env run n err ∧
    ∀ m ∈ before, ∀ d, ¬ FailsWith env run m d

end Visits

variable {env : Environment (StateM σ) α} {run : Nat}

/-! ### Failing, by cases and as computed -/

/-- The value at fault is named with its kind, unless there is none. -/
theorem refusal_eq_of_ne_none {filter : Expr} {v : Value α} {span : Span} (hv : v ≠ .none) :
    refusal filter v span = .notAFilter filter.print v.kindName span := by
  rw [refusal, if_neg]
  rwa [Value.isNone_iff]

theorem FailsWith.failure?_eq {n : Visit σ} {err : EvalError} (h : FailsWith env run n err) :
    failure? env run n = some err := by
  -- each reason is read off what the node computes from its two sides
  cases h with
  | missingFilter sides noFilter noValue =>
    subst noValue
    simp [failure?, sides, used_of_filter?_eq_none noFilter, refusal, Value.isNone]
  | notAFilter sides noFilter isValue =>
    simp [failure?, sides, used_of_filter?_eq_none noFilter, refusal_eq_of_ne_none isValue]
  | @tooManyArguments _ _ _ _ _ _ a w' g sides isFilter refused =>
    rcases hk : answer (env.curry g a) w' with ⟨k, w''⟩
    obtain rfl : k = none := by rw [← refused, hk]
    simp [failure?, sides, used_curried isFilter, hk, boundOutcome]
  | @filterExecution _ _ _ _ _ _ a w' g err sides isFilter failed =>
    rcases hr : answer (env.apply g a) w' with ⟨r, w''⟩
    obtain rfl : r = .error err := by rw [← failed, hr]
    simp [failure?, sides, used_applied isFilter, hr, appliedOutcome]

theorem failsWith_of_failure?_eq {n : Visit σ} {err : EvalError}
    (h : failure? env run n = some err) : FailsWith env run n err := by
  obtain ⟨place, e, w⟩ := n
  cases e with
  | identifier | implicitIterator | access => simp [failure?] at h
  | filtered filter argument curried span =>
    simp only [failure?, Option.bind_eq_some_iff] at h
    obtain ⟨⟨v, a, w'⟩, sides, hu⟩ := h
    rcases hv : v.filter? with - | g
    · -- nothing is used, and the kind of the value decides between the two reasons
      rw [used_of_filter?_eq_none hv, Outcome.error?_error, Option.some.injEq] at hu
      subst hu
      by_cases hn : v = .none
      · subst hn
        exact .missingFilter sides hv rfl
      · rw [refusal_eq_of_ne_none hn]
        exact .notAFilter sides hv hn
    · -- a filter is used, and only its own answer can be a reason
      cases curried with
      | true =>
        rw [used_curried hv] at hu
        rcases hk : answer (env.curry g a) w' with ⟨- | k, w''⟩
        · rw [hk, boundOutcome, Outcome.error?_error, Option.some.injEq] at hu
          subst hu
          exact .tooManyArguments sides hv (by rw [hk])
        · simp [hk, boundOutcome] at hu
      | false =>
        rw [used_applied hv] at hu
        rcases hr : answer (env.apply g a) w' with ⟨fe | - | v', w''⟩
        · rw [hr, appliedOutcome, Outcome.error?_error, Option.some.injEq] at hu
          subst hu
          exact .filterExecution sides hv (by rw [hr])
        · simp [hr, appliedOutcome] at hu
        · simp [hr, appliedOutcome] at hu

theorem failure?_eq_some_iff {n : Visit σ} {err : EvalError} :
    failure? env run n = some err ↔ FailsWith env run n err :=
  ⟨failsWith_of_failure?_eq, FailsWith.failure?_eq⟩

theorem failure?_eq_none_iff {n : Visit σ} :
    failure? env run n = none ↔ ∀ err, ¬ FailsWith env run n err := by
  simp only [Option.eq_none_iff_forall_ne_some, ne_eq, failure?_eq_some_iff]

/-! ### The first failure decides -/

/-- The error of an evaluation is that of the first visit that fails. -/
theorem findSome?_visits (place : List Branch) (e : Expr) (w : σ) :
    (visits env run place e w).findSome? (failure? env run)
      = (outcome env run place e w).error? := by
  induction e generalizing place w with
  | identifier x s => rfl
  | implicitIterator s => rfl
  | access base key s ih =>
    -- an access never fails itself
    rw [visits, List.findSome?_append, ih, outcome_access]
    rcases outcome env run (.base :: place) base w with ⟨err | v, w₁⟩
    · rfl
    · rfl
  | filtered filter argument curried s ihf iha =>
    rw [visits, List.findSome?_append, List.findSome?_append, ihf, iha, outcome_filtered]
    rcases hf : outcome env run (.filter :: place) filter w with ⟨err | v, w₁⟩
    · -- the first failure is on the filter side, whatever the other visits do
      rfl
    · rcases ha : outcome env run (.argument :: place) argument w₁ with ⟨err | a, w₂⟩
      · simp [ha]
      · -- both sides have values, so the node itself decides
        simp [ha, failure?, sides?, hf]

theorem kindName_eq_none_iff {v : Value α} : v.kindName = "none" ↔ v = .none := by
  constructor
  · intro h
    cases v with
    | none => rfl
    | scalar s => cases s <;> simp [Value.kindName, Scalar.kindName] at h
    | sequence | mapping | cluster => simp [Value.kindName] at h
  · rintro rfl
    rfl

theorem findSome?_eq_some_iff_firstFailure {ns : List (Visit σ)} {err : EvalError} :
    ns.findSome? (failure? env run) = some err ↔ FirstFailure env run ns err := by
  simp only [List.findSome?_eq_some_iff, failure?_eq_some_iff, failure?_eq_none_iff, FirstFailure]

theorem answer_evaluate_eq_error_iff {e : Expr} {w : σ} {err : EvalError} :
    (answer (evaluate env run e) w).1 = .error err ↔
      FirstFailure env run (visits env run [] e (openedWorld env e w)) err := by
  rw [← findSome?_eq_some_iff_firstFailure, findSome?_visits, Outcome.error?_eq_some_iff,
    answer_evaluate]

/-- **An evaluation fails exactly when a node fails, with the error of the first such node** in
post-order, for every context, filters and log.  The error carries the span and the text of
that node, as `FailsWith` says, and a value that is no filter is never called `none`. -/
theorem evaluate_fails_at_first (env : Environment (StateM σ) α) (run : Nat) (e : Expr) (w : σ) :
    ((∃ err, (answer (evaluate env run e) w).1 = .error err) ↔
      ∃ n ∈ visits env run [] e (openedWorld env e w), ∃ err, FailsWith env run n err) ∧
    (∀ err, (answer (evaluate env run e) w).1 = .error err ↔
      FirstFailure env run (visits env run [] e (openedWorld env e w)) err) ∧
    ∀ filter span, (answer (evaluate env run e) w).1 ≠ .error (.notAFilter filter "none" span) := by
  refine ⟨⟨?_, ?_⟩, fun err => answer_evaluate_eq_error_iff, ?_⟩
  · rintro ⟨err, h⟩
    obtain ⟨before, n, after, hns, hn, -⟩ := answer_evaluate_eq_error_iff.mp h
    exact ⟨n, by simp [hns], err, hn⟩
  · -- a node that fails need not be the first, but then there is a first
    rintro ⟨n, hmem, err, hn⟩
    have hsome : ((visits env run [] e (openedWorld env e w)).findSome?
        (failure? env run)).isSome := by
      rw [List.findSome?_isSome_iff]
      exact ⟨n, hmem, by rw [hn.failure?_eq]; rfl⟩
    obtain ⟨first, hfirst⟩ := Option.isSome_iff_exists.mp hsome
    exact ⟨first, answer_evaluate_eq_error_iff.mpr
      (findSome?_eq_some_iff_firstFailure.mp hfirst)⟩
  · intro filter span h
    obtain ⟨_, n, _, _, hn, _⟩ := answer_evaluate_eq_error_iff.mp h
    -- of the four reasons, only one has this form, and its value is not `none`
    generalize hd : EvalError.notAFilter filter "none" span = d at hn
    cases hn with
    | missingFilter | tooManyArguments | filterExecution => cases hd
    | notAFilter sides noFilter isValue =>
      injection hd with _ hkind
      exact isValue (kindName_eq_none_iff.mp hkind.symm)

end TagExpr
