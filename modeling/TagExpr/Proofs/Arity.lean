/-
TagExpr/Proofs/Arity.lean

Calls of a filter that takes a fixed number of arguments.

Of a filter that was declared with `n` arguments and has `b` bound, `r = max n 1 - b` are
missing.  A call `h(a₁, …, aₘ)` on it looks at the first `min m r` arguments and then

    m = r    runs the filter once, on all it has
    m < r    fails as the whole call, and says how many arguments there are
    m > r    fails at the node that binds argument `r`,
             and looks at no argument after that one.

The world that an outcome names makes this exact: it is reached from the world after the last
argument by one run of the filter, or it is that world itself.
-/
import Mathlib.Data.List.Basic
import TagExpr.Proofs.CallChain

namespace TagExpr

open TagExpr.Expr

/-! ### Binding several arguments -/

namespace FixedFilter

variable {α V : Type}

/-- The filter with further arguments bound, one by one. -/
def bindAll? (f : FixedFilter α V) (bs : List V) : Option (FixedFilter α V) :=
  bs.foldlM bind? f

theorem bindAll?_cons (f : FixedFilter α V) (b : V) (bs : List V) :
    f.bindAll? (b :: bs) = (f.bind? b).bind fun g => g.bindAll? bs := rfl

theorem bind?_eq_some {f g : FixedFilter α V} {b : V} (h : f.bind? b = some g) :
    1 < f.remaining ∧ g = { f with bound := f.bound ++ [b] } := by
  unfold bind? at h
  split at h
  · cases h
  · next hmissing => exact ⟨Nat.lt_of_not_le hmissing, (Option.some.inj h).symm⟩

/-- Binding changes nothing but the list of bound arguments, which grows in order and stays shorter
than the list of all. -/
theorem bindAll?_eq_some {f g : FixedFilter α V} {bs : List V} (h : f.bindAll? bs = some g) :
    g = { f with bound := f.bound ++ bs } ∧
      (f.bound.length < f.arity → g.bound.length < g.arity) := by
  induction bs generalizing f with
  | nil =>
    cases h
    exact ⟨by rw [List.append_nil], id⟩
  | cons b bs ih =>
    rw [bindAll?_cons, Option.bind_eq_some_iff] at h
    obtain ⟨k, hk, hg⟩ := h
    obtain ⟨hmissing, rfl⟩ := bind?_eq_some hk
    obtain ⟨rfl, hlt⟩ := ih hg
    refine ⟨by simp only [List.append_assoc, List.singleton_append], fun _ => hlt ?_⟩
    -- more than one argument is missing, so one is missing after this one
    show (f.bound ++ [b]).length < f.arity
    rw [remaining] at hmissing
    rw [List.length_append, List.length_singleton]
    omega

/-- With arguments bound, as many are missing less. -/
theorem remaining_bound_append (f : FixedFilter α V) (bs : List V) :
    ({ f with bound := f.bound ++ bs } : FixedFilter α V).remaining = f.remaining - bs.length := by
  simp only [remaining, List.length_append, Nat.sub_add_eq]

end FixedFilter

/-! ### One filter of a fixed number of arguments -/

section Fixed

variable {σ α : Type} {context : Context (StateM σ) α} {host : Host (StateM σ) α}
  {report : Record → StateM σ Unit}

theorem answer_curry_fixed (f : FixedFilter α (Value α)) (a : Value α) (w : σ) :
    answer ((Environment.of context host report).curry (.fixed f) a) w
      = ((f.bind? a).map .fixed, w) := rfl

theorem answer_apply_fixed_of_last {f : FixedFilter α (Value α)} (hf : f.remaining = 1)
    (a : Value α) (w : σ) :
    answer ((Environment.of context host report).apply (.fixed f) a) w
      = answer (host.run f.action (f.bound ++ [a])) w := by
  simp only [Environment.of, Filter.apply, hf, ne_eq, not_true_eq_false, if_false]

theorem answer_apply_fixed_of_early {f : FixedFilter α (Value α)} (hf : f.remaining ≠ 1)
    (a : Value α) (w : σ) :
    answer ((Environment.of context host report).apply (.fixed f) a) w
      = (.error f.tooEarly, w) := by
  simp only [Environment.of, Filter.apply, hf, ne_eq, not_false_eq_true, if_true]
  rfl

variable {run : Nat} {place : List Branch}

/-- A chain of fewer arguments than are missing gives the filter with all of them. -/
theorem outcome_chain_fixed {f : FixedFilter α (Value α)} {head : Expr} {args : List Expr}
    {after : Nat} {w w₁ w₂ : σ} {v : Value α} {vs : List (Value α)}
    (hlen : args.length < f.remaining) (hv : v.filter? = some (.fixed f))
    (hhead : outcome (.of context host report) run (headPlace place (args.length + after)) head w
      = (.ok v, w₁))
    (hargs : ArgumentsGive (.of context host report) run place after args w₁ vs w₂) :
    ∃ v' g, outcome (.of context host report) run (headPlace place after) (chain head args) w
        = (.ok v', w₂) ∧ v'.filter? = some (.fixed g) ∧ f.bindAll? vs = some g := by
  -- each argument makes a new head with a new filter, in the world after it
  induction args generalizing head f v w₁ vs with
  | nil =>
    cases hargs
    rw [List.length_nil, Nat.zero_add] at hhead
    exact ⟨v, f, hhead, hv, rfl⟩
  | cons a rest ih =>
    cases hargs with
    | @cons _ _ _ w' _ u us first others =>
      rw [List.length_cons] at hlen
      rw [List.length_cons, Nat.add_right_comm, headPlace_succ] at hhead
      rcases hb : f.bind? u with - | k
      · -- a filter that misses a further argument binds this one
        have hmissing : ¬ f.remaining ≤ 1 := by omega
        simp only [FixedFilter.bind?, hmissing, if_false] at hb
        cases hb
      · have hnode : outcome (.of context host report) run (headPlace place (rest.length + after))
            (mkFiltered head a true) w
              = (.ok (Value.ofFilter (.curried run (headPlace place (rest.length + after)))
                  (.fixed k)), w') := by
          rw [mkFiltered, outcome_filtered, hhead, Outcome.andThen_ok, first, Outcome.andThen_ok,
            used_curried hv, answer_curry_fixed, hb]
          rfl
        obtain ⟨-, rfl⟩ := FixedFilter.bind?_eq_some hb
        have hrest : rest.length
            < ({ f with bound := f.bound ++ [u] } : FixedFilter α (Value α)).remaining := by
          rw [FixedFilter.remaining_bound_append, List.length_singleton]
          omega
        obtain ⟨v', g, hchain, hv', hg⟩ := ih hrest (Value.filter?_ofFilter _ _) hnode others
        refine ⟨v', g, hchain, hv', ?_⟩
        rw [FixedFilter.bindAll?_cons, hb]
        exact hg

/-- A call of no more arguments than are missing evaluates them all, and then runs the filter if
none is missing any more. -/
theorem outcome_concat_fixed {f : FixedFilter α (Value α)} {head : Expr} {args : List Expr}
    {a : Expr} {w w₁ w₂ : σ} {v : Value α} {vs : List (Value α)}
    (hlen : args.length < f.remaining) (hv : v.filter? = some (.fixed f))
    (hhead : outcome (.of context host report) run (headPlace place (args.length + 1)) head w
      = (.ok v, w₁))
    (hargs : ArgumentsGive (.of context host report) run place 0 (args ++ [a]) w₁ vs w₂) :
    ∃ u us, us.length = args.length ∧ vs = us ++ [u] ∧
      outcome (.of context host report) run place (mkFiltered (chain head args) a false) w
        = appliedOutcome (.of context host report) f.name
            (mkFiltered (chain head args) a false).span
            (answer ((Environment.of context host report).apply
              (.fixed { f with bound := f.bound ++ us }) u) w₂) := by
  obtain ⟨us, w', u, hus, hu, hvs⟩ := hargs.concat
  -- the chain binds all arguments but the last, and the applied node runs what it gives
  obtain ⟨v', g, hchain, hv', hg⟩ := outcome_chain_fixed hlen hv hhead hus
  obtain ⟨rfl, -⟩ := FixedFilter.bindAll?_eq_some hg
  rw [headPlace_succ, headPlace_zero] at hchain
  rw [headPlace_zero] at hu
  refine ⟨u, us, hus.length_eq, hvs, ?_⟩
  rw [mkFiltered, outcome_filtered, hchain, Outcome.andThen_ok, hu, Outcome.andThen_ok,
    used_applied hv']
  rfl

/-- With all the missing arguments, the filter runs. -/
theorem outcome_concat_of_all {f : FixedFilter α (Value α)} {head : Expr} {args : List Expr}
    {a : Expr} {w w₁ w₂ : σ} {v : Value α} {vs : List (Value α)}
    (hlen : args.length + 1 = f.remaining) (hv : v.filter? = some (.fixed f))
    (hhead : outcome (.of context host report) run (headPlace place (args.length + 1)) head w
      = (.ok v, w₁))
    (hargs : ArgumentsGive (.of context host report) run place 0 (args ++ [a]) w₁ vs w₂) :
    outcome (.of context host report) run place (mkFiltered (chain head args) a false) w
      = appliedOutcome (.of context host report) f.name
          (mkFiltered (chain head args) a false).span
          (answer (host.run f.action (f.bound ++ vs)) w₂) := by
  obtain ⟨u, us, hlength, rfl, houtcome⟩ := outcome_concat_fixed (by omega) hv hhead hargs
  have hlast : ({ f with bound := f.bound ++ us } : FixedFilter α (Value α)).remaining = 1 := by
    rw [FixedFilter.remaining_bound_append]
    omega
  rw [houtcome, answer_apply_fixed_of_last hlast, List.append_assoc]

/-- With fewer arguments than are missing, the filter does not run. -/
theorem outcome_concat_of_few {f : FixedFilter α (Value α)} {head : Expr} {args : List Expr}
    {a : Expr} {w w₁ w₂ : σ} {v : Value α} {vs : List (Value α)}
    (hlen : args.length + 1 < f.remaining) (hv : v.filter? = some (.fixed f))
    (hhead : outcome (.of context host report) run (headPlace place (args.length + 1)) head w
      = (.ok v, w₁))
    (hargs : ArgumentsGive (.of context host report) run place 0 (args ++ [a]) w₁ vs w₂) :
    outcome (.of context host report) run place (mkFiltered (chain head args) a false) w
      = (.error (.filterExecution (.new ("filter `" ++ f.name ++ "` expects "
          ++ toString f.arity ++ " arguments, got "
          ++ toString (f.bound.length + (args.length + 1))))
          (mkFiltered (chain head args) a false).span), w₂) := by
  obtain ⟨u, us, hlength, rfl, houtcome⟩ := outcome_concat_fixed (by omega) hv hhead hargs
  have hearly : ({ f with bound := f.bound ++ us } : FixedFilter α (Value α)).remaining ≠ 1 := by
    rw [FixedFilter.remaining_bound_append]
    omega
  rw [houtcome, answer_apply_fixed_of_early hearly]
  simp only [appliedOutcome, FixedFilter.tooEarly, List.length_append, hlength, Nat.add_assoc]

/-- One argument more than the filter can bind: the node that should bind it fails, and the
arguments after it are not looked at. -/
theorem outcome_concat_of_surplus {f : FixedFilter α (Value α)} {head : Expr}
    {args rest : List Expr} {a last : Expr} {w w₁ w₂ : σ} {v : Value α} {vs : List (Value α)}
    (hlen : args.length + 1 = f.remaining) (hv : v.filter? = some (.fixed f))
    (hhead : outcome (.of context host report) run
      (headPlace place (args.length + (rest.length + 1 + 1))) head w = (.ok v, w₁))
    (hargs : ArgumentsGive (.of context host report) run place (rest.length + 1) (args ++ [a]) w₁
      vs w₂) :
    outcome (.of context host report) run place
        (mkFiltered (chain head (args ++ a :: rest)) last false) w
      = (.error (.tooManyArguments (chain head args).print (chain head (args ++ [a])).span),
          w₂) := by
  obtain ⟨us, w', u, hus, hu, -⟩ := hargs.concat
  obtain ⟨v', g, hchain, hv', hg⟩ := outcome_chain_fixed (by omega) hv hhead hus
  obtain ⟨rfl, -⟩ := FixedFilter.bindAll?_eq_some hg
  -- with all but the last argument bound, the filter binds no further one
  have hfull : ({ f with bound := f.bound ++ us } : FixedFilter α (Value α)).remaining ≤ 1 := by
    rw [FixedFilter.remaining_bound_append, hus.length_eq]
    omega
  have hrefused : ({ f with bound := f.bound ++ us } : FixedFilter α (Value α)).bind? u = none := by
    simp only [FixedFilter.bind?, hfull, if_true]
  -- the error goes up from this node through all that bind later arguments
  have hnode : outcome (.of context host report) run (headPlace place (rest.length + 1))
      (mkFiltered (chain head args) a true) w
        = (.error (.tooManyArguments (chain head args).print
            (mkFiltered (chain head args) a true).span), w₂) := by
    rw [headPlace_succ] at hchain
    rw [mkFiltered, outcome_filtered, hchain, Outcome.andThen_ok, hu, Outcome.andThen_ok,
      used_curried hv', answer_curry_fixed, hrefused]
    rfl
  rw [chain_append, chain_append, chain_cons]
  exact outcome_mkFiltered_of_error (outcome_chain_of_error hnode) last false

end Fixed

/-! ### The arity of a call -/

/-- **A call of a filter of `n` arguments, `b` of them bound, against the `r` that are missing.**
With `r` arguments the filter runs once, on all it has.  With fewer, all are evaluated and the
whole call fails with the number of arguments it would have had.  With more, the node that
binds argument `r` fails and nothing after that argument is evaluated.

The world may be a record of all requests and runs.  So the filter does not run where the
outcome has the world after the last argument, and an argument is not evaluated where it does
not occur in the outcome at all. -/
theorem outcome_call_fixed {σ α : Type} (context : Context (StateM σ) α)
    (host : Host (StateM σ) α) (report : Record → StateM σ Unit) (run : Nat)
    (place : List Branch) {name : String} {n : Nat} {action : α} {bs : List (Value α)}
    {f : FixedFilter α (Value α)} (hf : (FixedFilter.new name n action).bindAll? bs = some f)
    {r : Nat} (hr : r = max n 1 - bs.length) {head : Expr} {args : List Expr} (hne : args ≠ [])
    {w w₁ w₂ : σ} {v : Value α} {vs : List (Value α)} (hv : v.filter? = some (.fixed f))
    (hhead : outcome (.of context host report) run (headPlace place args.length) head w
      = (.ok v, w₁))
    (hargs : ArgumentsGive (.of context host report) run place (args.drop r).length (args.take r)
      w₁ vs w₂) :
    ∃ e, head.call args = some e ∧
      (args.length = r → outcome (.of context host report) run place e w
        = appliedOutcome (.of context host report) name e.span
            (answer (host.run action (bs ++ vs)) w₂)) ∧
      (args.length < r → outcome (.of context host report) run place e w
        = (.error (.filterExecution (.new ("filter `" ++ name ++ "` expects "
            ++ toString (max n 1) ++ " arguments, got "
            ++ toString (bs.length + args.length))) e.span), w₂)) ∧
      (r < args.length → outcome (.of context host report) run place e w
        = (.error (.tooManyArguments (chain head (args.take (r - 1))).print
            (chain head (args.take r)).span), w₂)) := by
  obtain ⟨heq, hlt⟩ := FixedFilter.bindAll?_eq_some hf
  obtain ⟨rfl, rfl, rfl⟩ : f.name = name ∧ f.action = action ∧ f.bound = bs := by
    rw [heq]
    exact ⟨rfl, rfl, rfl⟩
  have harity : f.arity = max n 1 := by rw [heq]; rfl
  -- at least the last argument is missing
  have hlast : f.bound.length < f.arity := hlt (Nat.le_max_right n 1)
  have hremaining : r = f.remaining := by rw [hr, ← harity, FixedFilter.remaining]
  have hmissing : 1 ≤ r := by
    rw [hremaining, FixedFilter.remaining]
    omega
  -- the last argument is that of the applied node, the others are those of the chain
  obtain ⟨init, last, rfl⟩ := (List.eq_nil_or_concat' args).resolve_left hne
  have hlength : (init ++ [last]).length = init.length + 1 := by simp
  refine ⟨_, call_concat head init last, ?_, ?_, ?_⟩
  · -- as many arguments as are missing
    intro hlen
    rw [← hlen, List.take_length, List.drop_length] at hargs
    rw [hlength] at hlen hhead
    exact outcome_concat_of_all (hlen.trans hremaining) hv hhead hargs
  · -- fewer
    intro hlen
    rw [List.take_of_length_le (Nat.le_of_lt hlen), List.drop_of_length_le (Nat.le_of_lt hlen)]
      at hargs
    rw [hlength] at hlen hhead
    rw [hlength, ← harity]
    exact outcome_concat_of_few (hremaining ▸ hlen) hv hhead hargs
  · -- more
    intro hlen
    rw [hlength] at hlen hhead
    obtain ⟨k, rfl⟩ := Nat.exists_eq_add_of_le' hmissing
    -- the argument that the filter refuses, and those before and after it
    obtain ⟨xs, a, rest, rfl, rfl⟩ : ∃ xs a rest, init = xs ++ a :: rest ∧ xs.length = k :=
      ⟨init.take k, init[k], init.drop (k + 1), by simp, by simp; omega⟩
    have hsplit : xs ++ a :: rest ++ [last] = (xs ++ [a]) ++ (rest ++ [last]) := by simp
    have hlengthxs : (xs ++ [a]).length = xs.length + 1 := by simp
    have hbefore : (xs ++ a :: rest ++ [last]).take xs.length = xs := by
      rw [List.append_assoc]
      exact List.take_left' rfl
    rw [hsplit, List.take_left' hlengthxs, List.drop_left' hlengthxs, List.length_append,
      List.length_singleton] at hargs
    rw [Nat.add_sub_cancel, hbefore, hsplit, List.take_left' hlengthxs]
    refine outcome_concat_of_surplus hremaining hv ?_ hargs
    rw [List.length_append, List.length_cons] at hhead
    exact hhead

/-- A context in which `join` is a filter of two arguments and any other name is a text. -/
def joinContext : Context (StateM Nat) Unit where
  lookup name :=
    pure (if name = "join" then .ofFilter (.host 0) (.fixed (.new "join" 2 ())) else .string name)
  top := pure .none

/-- A host that counts the runs of filters in its world; a filter gives its arguments back. -/
def countingHost : Host (StateM Nat) Unit where
  run _ args := fun runs => (.ok (some (.sequence args)), runs + 1)
  apply _ _ := pure (.ok none)
  curry _ _ := pure none

/-- `join` with two, with one and with three arguments. -/
theorem outcome_call_fixed_join :
    let name (s : String) : Expr := .identifierAt s .dummy
    let env := Environment.of joinContext countingHost fun _ => pure ()
    (∃ e, (name "join").call [name "a", name "b"] = some e ∧
      outcome env 0 [] e 0 = (.ok (.sequence [.string "a", .string "b"]), 1)) ∧
    (∃ e, (name "join").call [name "a"] = some e ∧
      outcome env 0 [] e 0 = (.error (.filterExecution
        (.new "filter `join` expects 2 arguments, got 1") .dummy), 0)) ∧
    ∃ e, (name "join").call [name "a", name "b", name "c"] = some e ∧
      outcome env 0 [] e 0 = (.error (.tooManyArguments "join(a, ...)" .dummy), 0) := by
  intro name env
  let join : FixedFilter Unit (Value Unit) := .new "join" 2 ()
  have hf : join.bindAll? [] = some join := rfl
  have hhead (k : Nat) : outcome env 0 (headPlace [] k) (name "join") 0
      = (.ok (.ofFilter (.host 0) (.fixed join)), 0) := rfl
  refine ⟨?_, ?_, ?_⟩
  · have hargs : ArgumentsGive env 0 [] 0 [name "a", name "b"] 0 [.string "a", .string "b"] 0 :=
      .cons rfl (.cons rfl (.nil 0))
    obtain ⟨e, he, hall, -, -⟩ := outcome_call_fixed joinContext countingHost
      (fun _ => pure ()) 0 [] hf rfl (List.cons_ne_nil (name "a") [name "b"]) rfl (hhead 2) hargs
    exact ⟨e, he, hall rfl⟩
  · have hargs : ArgumentsGive env 0 [] 0 [name "a"] 0 [.string "a"] 0 := .cons rfl (.nil 0)
    obtain ⟨e, he, -, hfew, -⟩ := outcome_call_fixed joinContext countingHost
      (fun _ => pure ()) 0 [] hf rfl (List.cons_ne_nil (name "a") []) rfl (hhead 1) hargs
    have hmessage : "filter `" ++ "join" ++ "` expects " ++ toString (max 2 1) ++ " arguments, got "
        ++ toString (0 + 1) = "filter `join` expects 2 arguments, got 1" := by decide
    cases he
    refine ⟨_, rfl, (hfew (by decide)).trans ?_⟩
    simp only [List.length_nil, List.length_singleton, hmessage]
    rfl
  · have hargs : ArgumentsGive env 0 [] 1 [name "a", name "b"] 0 [.string "a", .string "b"] 0 :=
      .cons rfl (.cons rfl (.nil 0))
    obtain ⟨e, he, -, -, hmore⟩ := outcome_call_fixed joinContext countingHost
      (fun _ => pure ()) 0 [] hf rfl (List.cons_ne_nil (name "a") [name "b", name "c"]) rfl
      (hhead 3) hargs
    exact ⟨e, he, hmore (by decide)⟩

end TagExpr
