/-
TagExpr/Proofs/Refusal.lean

Which node can find that it has no filter.

A curried node that has a value has a filter for it, whatever the filters are and whatever their
currying gives.  So a node above it never misses its filter; it can only be refused one more
argument, or its filter fails.  In a call

    h(a₁, …, aₘ) = filtered (… (filtered h a₁ curried) …) aₘ applied

all nodes but the innermost stand above a curried one.  If `h` and the arguments have values, the
blame for a missing filter is therefore with the innermost node: it carries the text of `h` and
the span of `h` and `a₁`, only these two have been evaluated, and no filter has been used.
-/
import TagExpr.Proofs.Arity
import TagExpr.Proofs.InStep

namespace TagExpr

open TagExpr.Expr

variable {σ α : Type} {env : Environment (StateM σ) α} {run : Nat} {place : List Branch}

/-! ### Curried nodes -/

/-- The value of a curried node is a filter. -/
theorem exists_filter?_of_curried {filter argument : Expr} {s : Span} {w w' : σ} {v : Value α}
    (h : outcome env run place (.filtered filter argument true s) w = (.ok v, w')) :
    ∃ g, v.filter? = some g := by
  obtain ⟨g, rfl⟩ := exists_eq_ofFilter_of_curried h
  exact ⟨g, Value.filter?_ofFilter _ g⟩

/-- The sides of a node have values, each in the world that the one before it has left. -/
theorem sides?_eq_some_iff {filter argument : Expr} {w w' : σ} {v a : Value α} :
    sides? env run place filter argument w = some (v, a, w') ↔
      ∃ w₁, outcome env run (.filter :: place) filter w = (.ok v, w₁) ∧
        outcome env run (.argument :: place) argument w₁ = (.ok a, w') := by
  -- the argument side begins where the filter side ends
  unfold sides?
  rcases outcome env run (.filter :: place) filter w with ⟨err | u, w₁⟩
  · simp
  · rcases ha : outcome env run (.argument :: place) argument w₁ with ⟨err | x, w₂⟩
    · simp [ha]
    · simp only [ha, Option.some.injEq, Prod.mk.injEq, Except.ok.injEq]
      constructor
      · rintro ⟨rfl, rfl, rfl⟩
        exact ⟨w₁, ⟨rfl, rfl⟩, ha⟩
      · rintro ⟨_, ⟨rfl, rfl⟩, ha'⟩
        cases ha.symm.trans ha'
        exact ⟨rfl, rfl, rfl⟩

theorem exists_filter?_of_sides? {filter argument : Expr} (hfilter : filter.isCurried = true)
    {w w' : σ} {v a : Value α} (h : sides? env run place filter argument w = some (v, a, w')) :
    ∃ g, v.filter? = some g := by
  obtain ⟨w₁, hf, -⟩ := sides?_eq_some_iff.mp h
  cases filter with
  | filtered f b curried s =>
    obtain rfl : curried = true := hfilter
    exact exists_filter?_of_curried hf
  | _ => cases hfilter

/-- **A node above a curried one never misses its filter**: one that binds an argument is refused
it, and one that is applied has a filter that fails. -/
theorem FailsWith.kind_of_isCurried {n : Visit σ} {err : EvalError} (h : FailsWith env run n err)
    {filter argument : Expr} {curried : Bool} {s : Span}
    (hnode : n.node = .filtered filter argument curried s) (hfilter : filter.isCurried = true) :
    err.kind = if curried then .tooManyArguments else .filterExecution := by
  cases h with
  | missingFilter sides noFilter _ =>
    cases hnode
    obtain ⟨g, hg⟩ := exists_filter?_of_sides? hfilter sides
    exact absurd (noFilter.symm.trans hg) nofun
  | notAFilter sides noFilter _ =>
    cases hnode
    obtain ⟨g, hg⟩ := exists_filter?_of_sides? hfilter sides
    exact absurd (noFilter.symm.trans hg) nofun
  | tooManyArguments =>
    cases hnode
    rfl
  | filterExecution =>
    cases hnode
    rfl

/-! ### Nodes of a call -/

theorem isCurried_chain {args : List Expr} (hne : args ≠ []) (head : Expr) :
    (chain head args).isCurried = true := by
  obtain ⟨init, a, rfl⟩ := (List.eq_nil_or_concat' args).resolve_left hne
  rw [chain_append]
  rfl

/-- An error of the head is the error of a call. -/
theorem outcome_call_of_error {head : Expr} {args : List Expr} {e : Expr}
    (hcall : head.call args = some e) {w w' : σ} {err : EvalError}
    (h : outcome env run (headPlace place args.length) head w = (.error err, w')) :
    outcome env run place e w = (.error err, w') := by
  rcases List.eq_nil_or_concat' args with rfl | ⟨init, a, rfl⟩
  · cases hcall
  · rw [call_concat] at hcall
    cases hcall
    rw [List.length_append, List.length_singleton] at h
    exact outcome_mkFiltered_of_error (outcome_chain_of_error h) a false

/-- An error of the innermost node is the error of a call. -/
theorem outcome_call_of_first {head a : Expr} {rest : List Expr} {e : Expr}
    (hcall : head.call (a :: rest) = some e) {w w' : σ} {err : EvalError}
    (h : outcome env run (headPlace place rest.length) (mkFiltered head a (!rest.isEmpty)) w
      = (.error err, w')) :
    outcome env run place e w = (.error err, w') := by
  cases rest with
  | nil =>
    cases hcall
    exact h
  | cons b rest =>
    have hrest : (mkFiltered head a true).call (b :: rest) = some e := hcall
    exact outcome_call_of_error hrest h

/-- Each argument of a call that its evaluation gets to has a value. -/
def ArgumentsSucceed (env : Environment (StateM σ) α) (run : Nat) (place : List Branch)
    (head : Expr) (args : List Expr) (w : σ) : Prop :=
  ∀ before a after, args = before ++ a :: after → ∀ v w₁,
    outcome env run (headPlace place (after.length + 1)) (chain head before) w = (.ok v, w₁) →
      ∃ x w₂, outcome env run (.argument :: headPlace place after.length) a w₁ = (.ok x, w₂)

/-- A node whose sides have values fails itself if it comes to an error. -/
theorem failsWith_of_outcome {filter argument : Expr} {curried : Bool} {s : Span}
    {w w₁ w₂ w' : σ} {v a : Value α} {err : EvalError}
    (hf : outcome env run (.filter :: place) filter w = (.ok v, w₁))
    (ha : outcome env run (.argument :: place) argument w₁ = (.ok a, w₂))
    (h : outcome env run place (.filtered filter argument curried s) w = (.error err, w')) :
    FailsWith env run ⟨place, .filtered filter argument curried s, w⟩ err := by
  rw [outcome_filtered, hf, Outcome.andThen_ok, ha, Outcome.andThen_ok] at h
  have hsides := sides?_eq_some_iff.mpr ⟨w₁, hf, ha⟩
  exact failure?_eq_some_iff.mp (by simp [failure?, hsides, h])

/-- **A call whose head and arguments have values fails at one of its own nodes.** -/
theorem exists_failsWith_of_call {head : Expr} {args : List Expr} {e : Expr} {w w₁ w' : σ}
    {v : Value α} {err : EvalError} (hcall : head.call args = some e)
    (hhead : outcome env run (headPlace place args.length) head w = (.ok v, w₁))
    (hargs : ArgumentsSucceed env run place head args w)
    (h : outcome env run place e w = (.error err, w')) :
    ∃ before a after, args = before ++ a :: after ∧
      FailsWith env run
        ⟨headPlace place after.length, mkFiltered (chain head before) a (!after.isEmpty), w⟩
        err := by
  -- the node of the first argument fails, or it is the head of a shorter call
  induction args generalizing head v w₁ with
  | nil => cases hcall
  | cons a rest ih =>
    obtain ⟨x, w₂, ha⟩ := hargs [] a rest rfl v w₁ hhead
    rcases hnode : outcome env run (headPlace place rest.length)
        (mkFiltered head a (!rest.isEmpty)) w with ⟨err' | u, w₃⟩
    · -- the node of the first argument is the one that fails
      have herr := h.symm.trans (outcome_call_of_first hcall hnode)
      cases herr
      exact ⟨[], a, rest, rfl, failsWith_of_outcome hhead ha hnode⟩
    · cases rest with
      | nil =>
        cases hcall
        exact absurd (h.symm.trans hnode) nofun
      | cons b rest =>
        -- its value is the head of the call of the other arguments
        have hrest : ArgumentsSucceed env run place (mkFiltered head a true) (b :: rest) w := by
          intro before c after hsplit
          exact hargs (a :: before) c after (by rw [hsplit, List.cons_append])
        obtain ⟨before, c, after, hsplit, hfails⟩ := ih hcall hnode hrest
        exact ⟨a :: before, c, after, by rw [hsplit, List.cons_append], hfails⟩

/-! ### The innermost node -/

/-- A node that misses its filter has evaluated its two sides and used no filter. -/
theorem outcome_recorded_of_filter?_eq_none {filter argument : Expr} {w w₁ w₂ : σ}
    {v a : Value α} (hf : outcome env run (.filter :: place) filter w = (.ok v, w₁))
    (ha : outcome env run (.argument :: place) argument w₁ = (.ok a, w₂))
    (hv : v.filter? = none) (curried : Bool) :
    outcome env.recorded run place (mkFiltered filter argument curried) (w, [])
      = (.error (refusal filter v (filter.span.merge argument.span)), w₂,
          trace env run (.filter :: place) filter w
            ++ trace env run (.argument :: place) argument w₁) := by
  rw [outcome_recorded, mkFiltered, outcome_filtered, trace_filtered, hf, Outcome.andThen_ok, ha,
    Outcome.andThen_ok, used_of_filter?_eq_none hv]
  simp [ha, invocation, hv]

/-- The error of a node that misses its filter is the refusal of the value of its filter side. -/
theorem FailsWith.eq_refusal {filter argument : Expr} {curried : Bool} {s : Span} {w w₁ : σ}
    {v : Value α} {err : EvalError}
    (h : FailsWith env run ⟨place, .filtered filter argument curried s, w⟩ err)
    (hf : outcome env run (.filter :: place) filter w = (.ok v, w₁))
    (hkind : err.kind = .missingFilter ∨ err.kind = .notAFilter) :
    v.filter? = none ∧ err = refusal filter v s := by
  generalize hn : (⟨place, .filtered filter argument curried s, w⟩ : Visit σ) = n at h
  cases h with
  | missingFilter sides noFilter noValue =>
    cases hn
    obtain ⟨w₂, hf', -⟩ := sides?_eq_some_iff.mp sides
    cases hf.symm.trans hf'
    subst noValue
    exact ⟨noFilter, rfl⟩
  | notAFilter sides noFilter isValue =>
    cases hn
    obtain ⟨w₂, hf', -⟩ := sides?_eq_some_iff.mp sides
    cases hf.symm.trans hf'
    exact ⟨noFilter, (refusal_eq_of_ne_none isValue).symm⟩
  -- the other two reasons are of other kinds
  | tooManyArguments => rcases hkind with hkind | hkind <;> cases hkind
  | filterExecution => rcases hkind with hkind | hkind <;> cases hkind

/-- **A successful curry is always a filter again.**  An evaluation that fails at a node above a
curried one has been refused an argument there, if that node is curried too, and otherwise has
a filter that failed: it never misses a filter.

So let the head of a call have a value, and each argument that the evaluation gets to.  If the
call fails it fails at one of its own nodes.  If it misses a filter, that is the innermost one,
with the text of the head and the span of the head and the first argument; the context has been
asked for the names and dots of these two, and no filter has been used but by them.  Any later
node is refused its argument, or has a filter that fails and is the last one. -/
theorem evaluate_refuses_innermost {σ α : Type} (env : Environment (StateM σ) α) (run : Nat) :
    (∀ e w err, (answer (evaluate env run e) w).1 = .error err →
      ∃ before n after, visits env run [] e (openedWorld env e w) = before ++ n :: after ∧
        FailsWith env run n err ∧ (∀ m ∈ before, ∀ d, ¬ FailsWith env run m d) ∧
        ∀ filter argument curried span, n.node = .filtered filter argument curried span →
          filter.isCurried = true →
            err.kind = if curried then .tooManyArguments else .filterExecution) ∧
    ∀ (place : List Branch) (head : Expr) (args : List Expr) (e : Expr) (w w₁ : σ) (v : Value α),
      head.call args = some e →
      outcome env run (headPlace place args.length) head w = (.ok v, w₁) →
      ArgumentsSucceed env run place head args w → ∀ err w',
      outcome env run place e w = (.error err, w') →
        ∃ before a after, args = before ++ a :: after ∧
          FailsWith env run
            ⟨headPlace place after.length, mkFiltered (chain head before) a (!after.isEmpty), w⟩
            err ∧
          (before ≠ [] →
            err.kind = if after = [] then .filterExecution else .tooManyArguments) ∧
          (err.kind = .missingFilter ∨ err.kind = .notAFilter →
            before = [] ∧ err = refusal head v (head.span.merge a.span) ∧
            let asked := trace env run (headPlace place args.length) head w
            let asked' := trace env run (.argument :: headPlace place after.length) a w₁
            outcome env.recorded run place e (w, []) = (.error err, w', asked ++ asked') ∧
              (asked ++ asked').filter (fun ev => !ev.isInvocation)
                = head.requests ++ a.requests) := by
  constructor
  · intro e w err herr
    obtain ⟨before, n, after, hvisits, hn, hbefore⟩ := answer_evaluate_eq_error_iff.mp herr
    refine ⟨before, n, after, hvisits, hn, hbefore, ?_⟩
    intro filter argument curried span hnode hfilter
    exact hn.kind_of_isCurried hnode hfilter
  · intro place head args e w w₁ v hcall hhead hargs err w' h
    obtain ⟨before, a, after, hsplit, hfails⟩ := exists_failsWith_of_call hcall hhead hargs h
    -- the head of a later node is a chain, which is curried
    have hlater : before ≠ [] →
        err.kind = if after = [] then .filterExecution else .tooManyArguments := by
      intro hne
      have hkind := hfails.kind_of_isCurried rfl (isCurried_chain hne head)
      cases after <;> exact hkind
    refine ⟨before, a, after, hsplit, hfails, hlater, fun hkind => ?_⟩
    obtain rfl : before = [] := by
      by_contra hne
      rw [hlater hne] at hkind
      split at hkind <;> rcases hkind with hkind | hkind <;> cases hkind
    rw [List.nil_append] at hsplit
    subst hsplit
    -- so it is the innermost node, whose sides are the head and the first argument
    obtain ⟨x, w₂, ha⟩ := hargs [] a after rfl v w₁ hhead
    obtain ⟨hv, rfl⟩ := hfails.eq_refusal hhead hkind
    -- what is recorded at the innermost node is all that the call leaves
    have hcalled := outcome_call_of_first hcall
      (outcome_recorded_of_filter?_eq_none hhead ha hv (!after.isEmpty))
    have hworld := congrArg (fun o => o.2.1) hcalled
    simp only [outcome_recorded, h] at hworld
    subst hworld
    refine ⟨rfl, rfl, hcalled, ?_⟩
    rw [List.filter_append]
    exact congrArg₂ (· ++ ·) (trace_of_ok hhead).1 (trace_of_ok ha).1

/-- `join(a, b)(c, d)`: the value of `join(a, b)` is a sequence.  The filter of `join` has run
once, and `d` is not asked for. -/
theorem evaluate_refuses_innermost_join :
    let name (s : String) (i : Nat) : Expr := .identifierAt s (.ofNat i (i + s.length))
    let env := Environment.of joinContext countingHost fun _ => pure ()
    let head : Expr :=
      .mkFiltered (.mkFiltered (name "join" 3) (name "a" 8) true) (name "b" 11) false
    let e : Expr := .mkFiltered (.mkFiltered head (name "c" 14) true) (name "d" 17) false
    let err : EvalError := .notAFilter head.print "sequence" (.ofNat 3 15)
    head.print = "join(a, b)" ∧ head.call [name "c" 14, name "d" 17] = some e ∧
    outcome env 0 (headPlace [] 2) head 0 = (.ok (.sequence [.string "a", .string "b"]), 1) ∧
    ArgumentsSucceed env 0 [] head [name "c" 14, name "d" 17] 0 ∧
    (answer (evaluate env 0 e) 0).1 = .error err ∧ outcome env 0 [] e 0 = (.error err, 1) ∧
    (∃ n ∈ visits env 0 [] e 0, FailsWith env 0 n err) ∧
    ∃ events, outcome env.recorded 0 [] e (0, []) = (.error err, 1, events) ∧
      events.filter (fun ev => !ev.isInvocation)
        = [.lookup "join", .lookup "a", .lookup "b", .lookup "c"] := by
  intro name env head e err
  have hhead : outcome env 0 (headPlace [] 2) head 0
      = (.ok (.sequence [.string "a", .string "b"]), 1) := rfl
  -- both arguments are names, which a context always answers
  have hargs : ArgumentsSucceed env 0 [] head [name "c" 14, name "d" 17] 0 := by
    intro before a after hsplit v w₁ _
    have ha : a ∈ [name "c" 14, name "d" 17] := by simp [hsplit]
    rcases List.mem_pair.mp ha with rfl | rfl
    · exact ⟨_, _, rfl⟩
    · exact ⟨_, _, rfl⟩
  have herr : (answer (evaluate env 0 e) 0).1 = .error err := rfl
  have houtcome : outcome env 0 [] e 0 = (.error err, 1) := rfl
  have hcalls : head.call [name "c" 14, name "d" 17] = some e := rfl
  obtain ⟨hfirst, hcall⟩ := evaluate_refuses_innermost env 0
  obtain ⟨before, n, after, hvisits, hn, -, -⟩ := hfirst e 0 err herr
  obtain ⟨_, c, rest, hsplit, -, -, hrefused⟩ := hcall [] head [name "c" 14, name "d" 17] e 0 1
    (.sequence [.string "a", .string "b"]) hcalls hhead hargs err 1 houtcome
  obtain ⟨rfl, -, hrecorded, hrequests⟩ := hrefused (.inr rfl)
  obtain ⟨rfl, rfl⟩ := List.cons.inj hsplit
  have hvisit : n ∈ visits env 0 [] e 0 := by
    rw [show visits env 0 [] e 0 = before ++ n :: after from hvisits]
    exact List.mem_append_right before List.mem_cons_self
  exact ⟨by decide, hcalls, hhead, hargs, herr, houtcome, ⟨n, hvisit, hn⟩, _, hrecorded, hrequests⟩

end TagExpr
