/-
TagExpr/Proofs/Trace.lean

The trace of an evaluation: what the evaluator asks of its context and of filters, in order.

`Environment.recorded` answers as before and notes every request and every use of a filter;
the notes are part of the world, so nothing else changes.  What a visited node adds to the
trace depends on its kind alone and on the values of its sides:

    name            one lookup of that name
    dot             one request of the top
    access          nothing
    filtered        one use of the filter with the argument's value,
                    nothing where the filter side exposes no filter.

The trace of an evaluation is what the nodes add in post-order, up to the first that fails.
-/
import TagExpr.Proofs.FirstFailure

namespace TagExpr

variable {σ α β γ : Type}

/-! ### Recording an environment -/

/-- A request of the evaluator to its context, or its use of a filter. -/
inductive Event (α : Type) where
  | lookup (name : String)
  | top
  | curry (f : Filter α (Value α)) (a : Value α)
  | apply (f : Filter α (Value α)) (a : Value α)

/-- A filter is used. -/
def Event.isInvocation : Event α → Bool
  | curry _ _ => true
  | apply _ _ => true
  | _ => false

/-- Answer as `x` does, and add to the notes. -/
def noting (es : List (Event α)) (x : StateM σ β) : StateM (σ × List (Event α)) β :=
  fun (w, log) => ((answer x w).1, (answer x w).2, log ++ es)

/-- The same environment, with every request and every use of a filter noted. -/
def Environment.recorded (env : Environment (StateM σ) α) :
    Environment (StateM (σ × List (Event α))) α where
  lookup name := noting [.lookup name] (env.lookup name)
  top := noting [.top] env.top
  apply f a := noting [.apply f a] (env.apply f a)
  curry f a := noting [.curry f a] (env.curry f a)
  report r := noting [] (env.report r)

@[simp] theorem answer_noting (es : List (Event α)) (x : StateM σ β) (w : σ)
    (log : List (Event α)) :
    answer (noting es x) (w, log) = ((answer x w).1, (answer x w).2, log ++ es) := rfl

/-! ### Cutting a list off -/

/-- A list up to and with the first element at which `f` gives something. -/
def upToFirst (f : β → Option γ) : List β → List β
  | [] => []
  | x :: xs =>
    match f x with
    | some _ => [x]
    | none => x :: upToFirst f xs

@[simp] theorem upToFirst_singleton (f : β → Option γ) (x : β) : upToFirst f [x] = [x] := by
  simp only [upToFirst]
  split <;> rfl

theorem upToFirst_of_findSome?_eq_none {f : β → Option γ} {xs : List β}
    (h : xs.findSome? f = none) : upToFirst f xs = xs := by
  induction xs with
  | nil => rfl
  | cons x xs ih =>
    simp only [List.findSome?_eq_none_iff, List.mem_cons, forall_eq_or_imp] at h ih
    simp only [upToFirst, h.1, ih h.2]

/-- The second list counts only if `f` gives nothing on the first. -/
theorem upToFirst_append (f : β → Option γ) (xs ys : List β) :
    upToFirst f (xs ++ ys)
      = upToFirst f xs ++ if (xs.findSome? f).isSome then [] else upToFirst f ys := by
  induction xs with
  | nil => rfl
  | cons x xs ih =>
    rcases hx : f x with - | c
    · simp only [List.cons_append, upToFirst, hx, ih, List.findSome?_cons]
    · simp [upToFirst, hx]

/-! ### What a node adds to the trace -/

/-- The use of a value as a filter: nothing where it exposes none. -/
def invocation (curried : Bool) (v a : Value α) : List (Event α) :=
  match v.filter? with
  | none => []
  | some g => [if curried then .curry g a else .apply g a]

section Trace

variable (env : Environment (StateM σ) α) (run : Nat)

/-- What a visited node adds to the trace, after all that its parts have added. -/
def events (n : Visit σ) : List (Event α) :=
  match n.node with
  | .identifier x _ => [.lookup x.name]
  | .implicitIterator _ => [.top]
  | .access _ _ _ => []
  | .filtered filter argument curried _ =>
    match sides? env run n.place filter argument n.world with
    | none => []
    | some (v, a, _) => invocation curried v a

/-- The nodes that an evaluation reaches: in post-order, up to the first that fails. -/
def reached (place : List Branch) (e : Expr) (w : σ) : List (Visit σ) :=
  upToFirst (failure? env run) (visits env run place e w)

/-- What the nodes that an evaluation reaches add to the trace. -/
def trace (place : List Branch) (e : Expr) (w : σ) : List (Event α) :=
  (reached env run place e w).flatMap (events env run)

end Trace

variable {env : Environment (StateM σ) α} {run : Nat} {place : List Branch}

/-! ### The trace by recursion -/

theorem isSome_findSome?_visits (e : Expr) (w : σ) :
    ((visits env run place e w).findSome? (failure? env run)).isSome
      = (outcome env run place e w).error?.isSome := by
  rw [findSome?_visits]

theorem reached_of_ok {e : Expr} {w w' : σ} {v : Value α}
    (h : outcome env run place e w = (.ok v, w')) :
    reached env run place e w = visits env run place e w := by
  apply upToFirst_of_findSome?_eq_none
  rw [findSome?_visits, h, Outcome.error?_ok]

theorem reached_access (base : Expr) (key : Ident) (s : Span) (w : σ) :
    reached env run place (.access base key s) w
      = reached env run (.base :: place) base w ++
        match outcome env run (.base :: place) base w with
        | (.error _, _) => []
        | (.ok _, _) => [⟨place, .access base key s, w⟩] := by
  rw [reached, visits, upToFirst_append, isSome_findSome?_visits, ← reached, upToFirst_singleton]
  rcases outcome env run (.base :: place) base w with ⟨err | v, w₁⟩ <;> simp

theorem reached_filtered (filter argument : Expr) (curried : Bool) (s : Span) (w : σ) :
    reached env run place (.filtered filter argument curried s) w
      = reached env run (.filter :: place) filter w ++
        match outcome env run (.filter :: place) filter w with
        | (.error _, _) => []
        | (.ok _, w₁) =>
          reached env run (.argument :: place) argument w₁ ++
            match outcome env run (.argument :: place) argument w₁ with
            | (.error _, _) => []
            | (.ok _, _) => [⟨place, .filtered filter argument curried s, w⟩] := by
  rw [reached, visits, List.append_assoc, upToFirst_append, upToFirst_append,
    isSome_findSome?_visits, isSome_findSome?_visits, ← reached, upToFirst_singleton]
  -- a side that fails cuts the rest off
  rcases hf : outcome env run (.filter :: place) filter w with ⟨err | v, w₁⟩
  · simp
  · rcases ha : outcome env run (.argument :: place) argument w₁ with ⟨err | a, w₂⟩
    · simp [ha, reached]
    · simp [ha, reached]

theorem trace_access (base : Expr) (key : Ident) (s : Span) (w : σ) :
    trace env run place (.access base key s) w = trace env run (.base :: place) base w := by
  rw [trace, reached_access, List.flatMap_append, ← trace]
  rcases outcome env run (.base :: place) base w with ⟨err | v, w₁⟩
  · simp
  · simp [events]

theorem trace_filtered (filter argument : Expr) (curried : Bool) (s : Span) (w : σ) :
    trace env run place (.filtered filter argument curried s) w
      = trace env run (.filter :: place) filter w ++
        match outcome env run (.filter :: place) filter w with
        | (.error _, _) => []
        | (.ok v, w₁) =>
          trace env run (.argument :: place) argument w₁ ++
            match outcome env run (.argument :: place) argument w₁ with
            | (.error _, _) => []
            | (.ok a, _) => invocation curried v a := by
  rw [trace, reached_filtered, List.flatMap_append, ← trace]
  rcases hf : outcome env run (.filter :: place) filter w with ⟨err | v, w₁⟩
  · simp
  · rcases ha : outcome env run (.argument :: place) argument w₁ with ⟨err | a, w₂⟩
    · simp [ha, trace]
    · simp [ha, trace, events, sides?, hf]

/-- Both sides of a filtered node that is reached have values. -/
theorem sides?_of_mem_reached {e : Expr} {w : σ} {n : Visit σ} (hn : n ∈ reached env run place e w)
    {filter argument : Expr} {curried : Bool} {s : Span}
    (hnode : n.node = .filtered filter argument curried s) :
    ∃ v a w', sides? env run n.place filter argument n.world = some (v, a, w') := by
  induction e generalizing place w with
  | identifier x s =>
    simp only [reached, visits, upToFirst_singleton, List.mem_singleton] at hn
    subst hn
    cases hnode
  | implicitIterator s =>
    simp only [reached, visits, upToFirst_singleton, List.mem_singleton] at hn
    subst hn
    cases hnode
  | access base key s ih =>
    rw [reached_access, List.mem_append] at hn
    rcases hn with hn | hn
    · exact ih hn
    · split at hn
      · simp at hn
      · rw [List.mem_singleton] at hn
        subst hn
        cases hnode
  | filtered f a c s ihf iha =>
    rw [reached_filtered, List.mem_append] at hn
    rcases hn with hn | hn
    · exact ihf hn
    · rcases hf : outcome env run (.filter :: place) f w with ⟨err | v, w₁⟩
      · simp [hf] at hn
      · simp only [hf, List.mem_append] at hn
        rcases hn with hn | hn
        · exact iha hn
        · rcases ha : outcome env run (.argument :: place) a w₁ with ⟨err | x, w₂⟩
          · simp [ha] at hn
          · -- only the node itself is left
            simp only [ha, List.mem_singleton] at hn
            subst hn
            cases hnode
            exact ⟨v, x, w₂, by simp [sides?, hf, ha]⟩

/-! ### Recording changes nothing else -/

theorem used_recorded (filter : Expr) (curried : Bool) (s : Span) (v a : Value α) (w : σ)
    (log : List (Event α)) :
    used env.recorded run place filter curried s v a (w, log)
      = ((used env run place filter curried s v a w).1,
          (used env run place filter curried s v a w).2, log ++ invocation curried v a) := by
  -- only a value that exposes a filter has something used
  rcases hv : v.filter? with - | g
  · simp [used_of_filter?_eq_none hv, invocation, hv]
  · cases curried with
    | true =>
      rw [used_curried hv, used_curried hv]
      simp only [Environment.recorded, answer_noting, invocation, hv]
      rcases answer (env.curry g a) w with ⟨- | k, w'⟩
      · rfl
      · rfl
    | false =>
      rw [used_applied hv, used_applied hv]
      simp only [Environment.recorded, answer_noting, invocation, hv]
      rcases answer (env.apply g a) w with ⟨err | - | v', w'⟩
      · rfl
      · simp [appliedOutcome]
      · rfl

theorem outcome_recorded (e : Expr) (w : σ) (log : List (Event α)) :
    outcome env.recorded run place e (w, log)
      = ((outcome env run place e w).1, (outcome env run place e w).2,
          log ++ trace env run place e w) := by
  induction e generalizing place w log with
  | identifier x s => rfl
  | implicitIterator s => rfl
  | access base key s ih =>
    rw [outcome_access, ih, outcome_access, trace_access]
    rcases outcome env run (.base :: place) base w with ⟨err | v, w₁⟩
    · rfl
    · rfl
  | filtered filter argument curried s ihf iha =>
    -- the notes of the filter side are there when the argument side begins
    rw [outcome_filtered, ihf, outcome_filtered, trace_filtered]
    rcases outcome env run (.filter :: place) filter w with ⟨err | v, w₁⟩
    · simp
    · simp only [Outcome.andThen_ok, iha]
      rcases outcome env run (.argument :: place) argument w₁ with ⟨err | a, w₂⟩
      · simp
      · simp [used_recorded]

theorem openedWorld_recorded (e : Expr) (w : σ) (log : List (Event α)) :
    openedWorld env.recorded e (w, log) = (openedWorld env e w, log) := by
  simp [openedWorld, Environment.recorded]

theorem closedWorld_recorded (r : Except EvalError (Value α)) (w : σ) (log : List (Event α)) :
    closedWorld env.recorded (r, (w, log)) = (closedWorld env (r, w), log) := by
  rcases r with err | v
  · simp [closedWorld, Environment.recorded]
  · simp [closedWorld, Environment.recorded]

/-! ### The trace of an evaluation that succeeds -/

namespace Expr

/-- The requests of the names and dots of an expression, from left to right. -/
def requests : Expr → List (Event α)
  | identifier x _ => [.lookup x.name]
  | implicitIterator _ => [.top]
  | access base _ _ => base.requests
  | filtered filter argument _ _ => filter.requests ++ argument.requests

/-- Number of filtered nodes. -/
def filteredCount : Expr → Nat
  | identifier _ _ => 0
  | implicitIterator _ => 0
  | access base _ _ => base.filteredCount
  | filtered filter argument _ _ => filter.filteredCount + argument.filteredCount + 1

end Expr

/-- The use of a filter, and nothing else, for a value that exposes one. -/
theorem invocation_of_filter? (curried : Bool) {v : Value α} {g : Filter α (Value α)}
    (hv : v.filter? = some g) (a : Value α) :
    ∃ ev : Event α, invocation curried v a = [ev] ∧ ev.isInvocation = true := by
  cases curried with
  | true => exact ⟨.curry g a, by simp [invocation, hv], rfl⟩
  | false => exact ⟨.apply g a, by simp [invocation, hv], rfl⟩

theorem trace_of_ok {e : Expr} {w w' : σ} {v : Value α}
    (h : outcome env run place e w = (.ok v, w')) :
    (trace env run place e w).filter (fun ev => !ev.isInvocation) = e.requests ∧
      (trace env run place e w).countP Event.isInvocation = e.filteredCount := by
  induction e generalizing place w w' v with
  | identifier x s => exact ⟨rfl, rfl⟩
  | implicitIterator s => exact ⟨rfl, rfl⟩
  | access base key s ih =>
    obtain ⟨vb, hb, -⟩ := outcome_access_eq_ok h
    rw [trace_access]
    exact ih hb
  | filtered filter argument curried s ihf iha =>
    obtain ⟨vf, w₁, a, w₂, g, hf, ha, hg, -⟩ := outcome_filtered_eq_ok h
    obtain ⟨requestsf, countf⟩ := ihf hf
    obtain ⟨requestsa, counta⟩ := iha ha
    obtain ⟨ev, hev, hinv⟩ := invocation_of_filter? curried hg a
    rw [trace_filtered]
    simp only [hf, ha, hev, List.filter_append, List.countP_append, requestsf, requestsa, countf,
      counta]
    -- the node itself is an invocation and no request
    constructor
    · simp [hinv, Expr.requests]
    · simp [hinv, Expr.filteredCount, Nat.add_assoc]

/-! ### The trace of whole evaluations -/

theorem answer_evaluate_recorded (e : Expr) (w : σ) (log : List (Event α)) :
    answer (evaluate env.recorded run e) (w, log)
      = ((answer (evaluate env run e) w).1, (answer (evaluate env run e) w).2,
          log ++ trace env run [] e (openedWorld env e w)) := by
  rw [answer_evaluate, answer_evaluate, openedWorld_recorded, outcome_recorded,
    closedWorld_recorded]

/-- **The trace of an evaluation is its post-order traversal, cut off right after the first node
that fails.**  Recording does not change the evaluation.  A filtered node that is reached adds
one use of its filter, with the value of its argument side, unless its filter side exposes no
filter and the node fails for it.  An evaluation that succeeds reaches every node; so it makes
one request for each name and dot, from left to right, and uses a filter once for each
filtered node.  One that fails ends with the node that is to blame. -/
theorem evaluate_recorded (env : Environment (StateM σ) α) (run : Nat) (e : Expr) (w : σ) :
    let result := answer (evaluate env run e) w
    let all := visits env run [] e (openedWorld env e w)
    let ns := reached env run [] e (openedWorld env e w)
    answer (evaluate env.recorded run e) (w, [])
        = (result.1, result.2, ns.flatMap (events env run)) ∧
      (∀ n ∈ ns, ∀ filter argument curried span,
        n.node = .filtered filter argument curried span →
          ∃ v a w', sides? env run n.place filter argument n.world = some (v, a, w') ∧
            events env run n = invocation curried v a ∧
            (v.filter? = none → ∃ err, FailsWith env run n err)) ∧
      (∀ v, result.1 = .ok v → ns = all ∧
        (ns.flatMap (events env run)).filter (fun ev => !ev.isInvocation) = e.requests ∧
        (ns.flatMap (events env run)).countP Event.isInvocation = e.filteredCount) ∧
      ∀ err, result.1 = .error err → ∃ before n after, all = before ++ n :: after ∧
        ns = before ++ [n] ∧ FailsWith env run n err ∧
        ∀ m ∈ before, ∀ d, ¬ FailsWith env run m d := by
  intro result all ns
  refine ⟨?_, ?_, ?_, ?_⟩
  · exact answer_evaluate_recorded e w []
  · -- a node without a filter fails for it, so it is the last one that is reached
    intro n hn filter argument curried span hnode
    obtain ⟨v, a, w', hsides⟩ := sides?_of_mem_reached hn hnode
    refine ⟨v, a, w', hsides, by simp [events, hnode, hsides], ?_⟩
    intro hv
    refine ⟨refusal filter v span, failure?_eq_some_iff.mp ?_⟩
    simp [failure?, hnode, hsides, used_of_filter?_eq_none hv]
  · intro v hv
    have hok : outcome env run [] e (openedWorld env e w)
        = (.ok v, (outcome env run [] e (openedWorld env e w)).2) := by
      simp only [result, answer_evaluate] at hv
      rw [← hv]
    exact ⟨reached_of_ok hok, trace_of_ok hok⟩
  · intro err herr
    obtain ⟨before, n, after, hall, hn, hbefore⟩ := answer_evaluate_eq_error_iff.mp herr
    refine ⟨before, n, after, hall, ?_, hn, hbefore⟩
    -- nothing before the failing node cuts the list off
    have hnone : before.findSome? (failure? env run) = none :=
      List.findSome?_eq_none_iff.mpr fun m hm => failure?_eq_none_iff.mpr (hbefore m hm)
    simp only [ns, reached]
    rw [hall, upToFirst_append, hnone]
    simp [upToFirst_of_findSome?_eq_none hnone, upToFirst, hn.failure?_eq]

end TagExpr
