/-
TagExpr/Proofs/FilterRun.lean

Runs of a filter that takes a fixed number of arguments.

A run begins with one filter.  Each step curries or applies the filter of some number, and a
filter obtained by currying gets the next number, so the filters of a run are a tree that may
grow at any of its nodes in any order.  The path of a filter is the list of arguments that led
to it, read off the steps and their replies alone.  Of a filter declared with `n` arguments,
`N = max n 1`, and with the path `p`,

    curry a   is refused                     if p.length + 1 = N,  else gives the path p ++ [a]
    apply a   runs the filter on p ++ [a]    if p.length + 1 = N,  else says what is missing.

The invariant of a run is that its filters are those of their paths, and that every path is
shorter than `N`.
-/
import TagExpr.Proofs.Arity

namespace TagExpr

variable {σ α : Type}

/-! ### Steps and runs -/

/-- A step on the filter of some number. -/
inductive FilterStep (α : Type) where
  | curry (i : Nat) (a : Value α)
  | apply (i : Nat) (a : Value α)

/-- The number of the filter that a step is about. -/
def FilterStep.number : FilterStep α → Nat
  | curry i _ => i
  | apply i _ => i

/-- What a step gives. -/
inductive Reply (α : Type) where
  /-- There is no filter of that number. -/
  | missing
  /-- The filter takes no further argument. -/
  | refused
  /-- A new filter, which gets the next number. -/
  | obtained
  | result (r : FilterResult α)

section Run

variable {m : Type → Type} [Monad m] (host : Host m α)

/-- Do a step, and give the filters after it. -/
def FilterStep.perform (fs : List (Filter α (Value α))) :
    FilterStep α → m (Reply α × List (Filter α (Value α)))
  | curry i a =>
    match fs[i]? with
    | none => return (.missing, fs)
    | some f => do
      match ← f.curry host a with
      | none => return (.refused, fs)
      | some g => return (.obtained, fs ++ [g])
  | apply i a =>
    match fs[i]? with
    | none => return (.missing, fs)
    | some f => return (.result (← f.apply host a), fs)

end Run

/-- The paths of the filters after one more step, which are known from its reply. -/
def extendPaths (paths : List (List (Value α))) : FilterStep α × Reply α → List (List (Value α))
  | (.curry i a, .obtained) =>
    match paths[i]? with
    | none => paths
    | some path => paths ++ [path ++ [a]]
  | _ => paths

/-- The same host, with every run of a filter noted. -/
def Host.noted (host : Host (StateM σ) α) :
    Host (StateM (σ × List (α × List (Value α)))) α where
  run action args := fun (w, calls) =>
    ((answer (host.run action args) w).1, (answer (host.run action args) w).2,
      calls ++ [(action, args)])
  apply action a := fun (w, calls) =>
    ((answer (host.apply action a) w).1, (answer (host.apply action a) w).2, calls)
  curry action a := fun (w, calls) =>
    ((answer (host.curry action a) w).1, (answer (host.curry action a) w).2, calls)

/-- What a run has come to: its filters and their paths, the world, and the runs of a filter so far,
each with what the filter does and the arguments it got. -/
structure RunState (σ α : Type) where
  filters : List (Filter α (Value α))
  paths : List (List (Value α))
  world : σ
  calls : List (α × List (Value α))

namespace RunState

/-- A run begins with a filter that is declared with `n` arguments. -/
def start (name : String) (n : Nat) (action : α) (w : σ) : RunState σ α :=
  { filters := [.fixed (.new name n action)], paths := [[]], world := w, calls := [] }

/-- Do a step: its reply and the state after it. -/
def step (host : Host (StateM σ) α) (s : RunState σ α) (t : FilterStep α) :
    Reply α × RunState σ α :=
  let ((reply, filters), world, calls) :=
    answer (t.perform host.noted s.filters) (s.world, s.calls)
  (reply, { filters, paths := extendPaths s.paths (t, reply), world, calls })

/-- Do steps one after the other. -/
def after (host : Host (StateM σ) α) (s : RunState σ α) (steps : List (FilterStep α)) :
    RunState σ α :=
  steps.foldl (fun s t => (s.step host t).2) s

end RunState

/-! ### The filter of a path -/

namespace FixedFilter

/-- The filter declared with `n` arguments, with those of a path bound. -/
def along (name : String) (n : Nat) (action : α) (path : List (Value α)) :
    FixedFilter α (Value α) :=
  { name, arity := max n 1, bound := path, action }

variable {name : String} {n : Nat} {action : α} {path : List (Value α)}

theorem remaining_along :
    (along name n action path).remaining = max n 1 - path.length := rfl

theorem bind?_along_of_last (h : path.length + 1 = max n 1) (a : Value α) :
    (along name n action path).bind? a = none := by
  have hlast : (along name n action path).remaining ≤ 1 := by
    rw [remaining_along]
    omega
  simp only [bind?, hlast, if_true]

theorem bind?_along_of_early (h : path.length + 1 < max n 1) (a : Value α) :
    (along name n action path).bind? a = some (along name n action (path ++ [a])) := by
  have hearly : ¬ (along name n action path).remaining ≤ 1 := by
    rw [remaining_along]
    omega
  simp only [bind?, hearly, if_false]
  rfl

/-- What the filter of a path says when it is applied too early. -/
def shortage (name : String) (n : Nat) (path : List (Value α)) : FilterError :=
  .new ("filter `" ++ name ++ "` expects " ++ toString (max n 1) ++ " arguments, got "
    ++ toString (path.length + 1))

end FixedFilter

open FixedFilter

/-! ### One step -/

section Step

variable {host : Host (StateM σ) α} {fs : List (Filter α (Value α))} {i : Nat}
  {name : String} {n : Nat} {action : α} {path : List (Value α)}

theorem answer_of_missing {s : FilterStep α} (hf : fs[s.number]? = none) (w : σ) :
    answer (s.perform host fs) w = ((.missing, fs), w) := by
  cases s with
  | curry i a =>
    simp only [FilterStep.number] at hf
    simp only [FilterStep.perform, hf]
    rfl
  | apply i a =>
    simp only [FilterStep.number] at hf
    simp only [FilterStep.perform, hf]
    rfl

theorem answer_curry_of_last (hf : fs[i]? = some (.fixed (along name n action path)))
    (h : path.length + 1 = max n 1) (a : Value α) (w : σ) :
    answer ((FilterStep.curry i a).perform host fs) w = ((.refused, fs), w) := by
  simp only [FilterStep.perform, hf, Filter.curry, bind?_along_of_last h]
  rfl

theorem answer_curry_of_early (hf : fs[i]? = some (.fixed (along name n action path)))
    (h : path.length + 1 < max n 1) (a : Value α) (w : σ) :
    answer ((FilterStep.curry i a).perform host fs) w
      = ((.obtained, fs ++ [.fixed (along name n action (path ++ [a]))]), w) := by
  simp only [FilterStep.perform, hf, Filter.curry, bind?_along_of_early h]
  rfl

theorem answer_apply_of_last (hf : fs[i]? = some (.fixed (along name n action path)))
    (h : path.length + 1 = max n 1) (a : Value α) (w : σ) :
    answer ((FilterStep.apply i a).perform host fs) w
      = ((.result (answer (host.run action (path ++ [a])) w).1, fs),
          (answer (host.run action (path ++ [a])) w).2) := by
  have hlast : (along name n action path).remaining = 1 := by
    rw [remaining_along]
    omega
  simp only [FilterStep.perform, hf, Filter.apply, hlast, ne_eq, not_true_eq_false, if_false]
  rfl

theorem answer_apply_of_early (hf : fs[i]? = some (.fixed (along name n action path)))
    (h : path.length + 1 < max n 1) (a : Value α) (w : σ) :
    answer ((FilterStep.apply i a).perform host fs) w
      = ((.result (.error (shortage name n path)), fs), w) := by
  have hearly : (along name n action path).remaining ≠ 1 := by
    rw [remaining_along]
    omega
  simp only [FilterStep.perform, hf, Filter.apply, hearly, ne_eq, not_false_eq_true, if_true]
  rfl

end Step

/-! ### What steps keep -/

/-- The invariant of a run: its filters are those of the paths, each filter awaits an argument, and
whenever a filter ran it had all its arguments. -/
structure RunState.Inv (name : String) (n : Nat) (action : α) (s : RunState σ α) : Prop where
  filters_eq : s.filters = s.paths.map fun path => .fixed (along name n action path)
  length_lt : ∀ path ∈ s.paths, path.length < max n 1
  calls_eq : ∀ c ∈ s.calls, c.1 = action ∧ c.2.length = max n 1

namespace RunState

section Kept

variable {host : Host (StateM σ) α} {name : String} {n : Nat} {action : α} {s : RunState σ α}
  {i : Nat} {path : List (Value α)}

theorem inv_start (w : σ) : (start name n action w).Inv name n action where
  filters_eq := rfl
  length_lt path h := by
    rw [List.mem_singleton.mp h, List.length_nil]
    omega
  calls_eq c h := nomatch h

theorem Inv.getElem?_eq (h : s.Inv name n action) (i : Nat) :
    s.filters[i]? = s.paths[i]?.map fun path => .fixed (along name n action path) := by
  rw [h.filters_eq, List.getElem?_map]

/-- A filter of a run, by its number. -/
theorem Inv.filter_eq (h : s.Inv name n action) (hi : s.paths[i]? = some path) :
    s.filters[i]? = some (.fixed (along name n action path)) := by
  rw [h.getElem?_eq, hi]
  rfl

theorem Inv.lt (h : s.Inv name n action) (hi : s.paths[i]? = some path) :
    path.length < max n 1 :=
  h.length_lt path (List.mem_of_getElem? hi)

theorem Inv.step_of_missing (h : s.Inv name n action) {t : FilterStep α}
    (hi : s.paths[t.number]? = none) : s.step host t = (.missing, s) := by
  have hf : s.filters[t.number]? = none := by
    rw [h.getElem?_eq, hi]
    rfl
  simp only [step, answer_of_missing hf]
  cases t <;> rfl

theorem Inv.step_curry_of_last (h : s.Inv name n action) (hi : s.paths[i]? = some path)
    (hlast : path.length + 1 = max n 1) (a : Value α) :
    s.step host (.curry i a) = (.refused, s) := by
  simp only [step, answer_curry_of_last (h.filter_eq hi) hlast]
  rfl

theorem Inv.step_curry_of_early (h : s.Inv name n action) (hi : s.paths[i]? = some path)
    (hearly : path.length + 1 < max n 1) (a : Value α) :
    s.step host (.curry i a)
      = (.obtained, { s with
          filters := s.filters ++ [.fixed (along name n action (path ++ [a]))]
          paths := s.paths ++ [path ++ [a]] }) := by
  simp only [step, answer_curry_of_early (h.filter_eq hi) hearly, extendPaths, hi]

theorem Inv.step_apply_of_last (h : s.Inv name n action) (hi : s.paths[i]? = some path)
    (hlast : path.length + 1 = max n 1) (a : Value α) :
    s.step host (.apply i a)
      = (.result (answer (host.run action (path ++ [a])) s.world).1, { s with
          world := (answer (host.run action (path ++ [a])) s.world).2
          calls := s.calls ++ [(action, path ++ [a])] }) := by
  simp only [step, answer_apply_of_last (h.filter_eq hi) hlast]
  rfl

theorem Inv.step_apply_of_early (h : s.Inv name n action) (hi : s.paths[i]? = some path)
    (hearly : path.length + 1 < max n 1) (a : Value α) :
    s.step host (.apply i a) = (.result (.error (shortage name n path)), s) := by
  simp only [step, answer_apply_of_early (h.filter_eq hi) hearly]
  rfl

/-- All that a step can do: nothing, or bind an argument, or run a filter on all its arguments. -/
theorem Inv.step_cases (h : s.Inv name n action) (host : Host (StateM σ) α) (t : FilterStep α) :
    (∃ r, s.step host t = (r, s)) ∨
    (∃ path a, path.length + 1 < max n 1 ∧ s.step host t = (.obtained, { s with
      filters := s.filters ++ [.fixed (along name n action (path ++ [a]))]
      paths := s.paths ++ [path ++ [a]] })) ∨
    ∃ r path a w, path.length + 1 = max n 1 ∧ s.step host t = (r, { s with
      world := w, calls := s.calls ++ [(action, path ++ [a])] }) := by
  rcases hi : s.paths[t.number]? with - | path
  · -- there is no filter of this number
    exact .inl ⟨_, h.step_of_missing hi⟩
  · cases t with
    | curry i a =>
      -- binding, unless the last argument is the one missing
      change s.paths[i]? = some path at hi
      rcases Nat.lt_or_eq_of_le (h.lt hi) with hearly | hlast
      · exact .inr (.inl ⟨path, a, hearly, h.step_curry_of_early hi hearly a⟩)
      · exact .inl ⟨_, h.step_curry_of_last hi hlast a⟩
    | apply i a =>
      -- running, if the last argument is the one missing
      change s.paths[i]? = some path at hi
      rcases Nat.lt_or_eq_of_le (h.lt hi) with hearly | hlast
      · exact .inl ⟨_, h.step_apply_of_early hi hearly a⟩
      · exact .inr (.inr ⟨_, path, a, _, hlast, h.step_apply_of_last hi hlast a⟩)

theorem Inv.step (h : s.Inv name n action) (t : FilterStep α) :
    (s.step host t).2.Inv name n action := by
  obtain ⟨r, hs⟩ | ⟨path, a, hearly, hs⟩ | ⟨r, path, a, w, hlast, hs⟩ := h.step_cases host t
  · -- no filter came in and none ran
    rw [hs]
    exact h
  · -- one more path, still short of an argument
    rw [hs]
    refine ⟨?_, fun p hp => ?_, h.calls_eq⟩
    · rw [List.map_append, ← h.filters_eq, List.map_singleton]
    · rcases List.mem_append.mp hp with hp | hp
      · exact h.length_lt p hp
      · rw [List.mem_singleton.mp hp, List.length_append, List.length_singleton]
        exact hearly
  · -- one more run, on all arguments
    rw [hs]
    refine ⟨h.filters_eq, h.length_lt, fun c hc => ?_⟩
    rcases List.mem_append.mp hc with hc | hc
    · exact h.calls_eq c hc
    · rw [List.mem_singleton.mp hc, List.length_append, List.length_singleton]
      exact ⟨rfl, hlast⟩

/-- A step takes no filter away and changes none. -/
theorem Inv.prefix_step (h : s.Inv name n action) (t : FilterStep α) :
    s.filters <+: (s.step host t).2.filters ∧ s.paths <+: (s.step host t).2.paths := by
  obtain ⟨r, hs⟩ | ⟨path, a, -, hs⟩ | ⟨r, path, a, w, -, hs⟩ := h.step_cases host t
  · rw [hs]
    exact ⟨List.prefix_rfl, List.prefix_rfl⟩
  · rw [hs]
    exact ⟨List.prefix_append _ _, List.prefix_append _ _⟩
  · rw [hs]
    exact ⟨List.prefix_rfl, List.prefix_rfl⟩

/-! ### What runs keep -/

theorem Inv.after (h : s.Inv name n action) (steps : List (FilterStep α)) :
    (s.after host steps).Inv name n action := by
  induction steps generalizing s with
  | nil => exact h
  | cons t rest ih => exact ih (h.step t)

theorem Inv.prefix_after (h : s.Inv name n action) (steps : List (FilterStep α)) :
    s.filters <+: (s.after host steps).filters ∧ s.paths <+: (s.after host steps).paths := by
  induction steps generalizing s with
  | nil => exact ⟨List.prefix_rfl, List.prefix_rfl⟩
  | cons t rest ih =>
    obtain ⟨hfilters', hpaths'⟩ := ih (h.step t)
    obtain ⟨hfilters, hpaths⟩ := h.prefix_step t
    exact ⟨hfilters.trans hfilters', hpaths.trans hpaths'⟩

end Kept

/-- **Any run of curries and applications of a filter declared with `n` arguments.**  Its filters
keep the name and the `max n 1` arguments; each has bound the arguments of its path, and at least
one less than it takes.  It is curried unless only the last argument is missing, and it runs exactly
then, on all its arguments and once; otherwise an application fails and says what is there.
Nothing that is done later changes a filter. -/
theorem after_start (host : Host (StateM σ) α) (name : String) (n : Nat) (action : α) (w : σ)
    (steps : List (FilterStep α)) :
    let s := (start name n action w).after host steps
    s.filters.length = s.paths.length ∧
      (∀ (i : Nat) (path : List (Value α)), s.paths[i]? = some path → path.length < max n 1 ∧
        ∃ f, s.filters[i]? = some (.fixed f) ∧ f.name = name ∧ f.arity = max n 1 ∧
          f.bound = path) ∧
      (∀ (i : Nat) (path : List (Value α)) (a : Value α), s.paths[i]? = some path →
        path.length + 1 = max n 1 →
        s.step host (.curry i a) = (.refused, s) ∧
        s.step host (.apply i a)
          = (.result (answer (host.run action (path ++ [a])) s.world).1, { s with
              world := (answer (host.run action (path ++ [a])) s.world).2
              calls := s.calls ++ [(action, path ++ [a])] })) ∧
      (∀ (i : Nat) (path : List (Value α)) (a : Value α), s.paths[i]? = some path →
        path.length + 1 ≠ max n 1 →
        (∃ g, s.step host (.curry i a) = (.obtained, { s with
            filters := s.filters ++ [g], paths := s.paths ++ [path ++ [a]] })) ∧
        s.step host (.apply i a)
          = (.result (.error (.new ("filter `" ++ name ++ "` expects " ++ toString (max n 1)
              ++ " arguments, got " ++ toString (path.length + 1)))), s)) ∧
      (∀ c ∈ s.calls, c.1 = action ∧ c.2.length = max n 1) ∧
      ∀ more, s.filters <+: (s.after host more).filters ∧
        s.paths <+: (s.after host more).paths := by
  intro s
  -- every clause is what the invariant says of one step after the run
  have h : s.Inv name n action := (inv_start w).after steps
  refine ⟨?_, ?_, ?_, ?_, h.calls_eq, h.prefix_after⟩
  · rw [h.filters_eq, List.length_map]
  · intro i path hi
    exact ⟨h.lt hi, _, h.filter_eq hi, rfl, rfl, rfl⟩
  · intro i path a hi hlast
    exact ⟨h.step_curry_of_last hi hlast a, h.step_apply_of_last hi hlast a⟩
  · intro i path a hi hne
    have hearly := (Nat.lt_or_eq_of_le (h.lt hi)).resolve_right hne
    exact ⟨⟨_, h.step_curry_of_early hi hearly a⟩, h.step_apply_of_early hi hearly a⟩

/-- `join`, with `a` and with `b` bound beside each other, and applied with either and with
neither. -/
theorem after_start_join :
    let s := (start "join" 2 () 0).after countingHost
      [.curry 0 (.string "a"), .curry 0 (.string "b")]
    s.paths = [[], [.string "a"], [.string "b"]] ∧
      s.step countingHost (.curry 1 (.string "c")) = (.refused, s) ∧
      (s.step countingHost (.apply 2 (.string "c"))).1
        = .result (.ok (some (.sequence [.string "b", .string "c"]))) ∧
      s.step countingHost (.apply 0 (.string "c"))
        = (.result (.error (.new "filter `join` expects 2 arguments, got 1")), s) := by
  intro s
  obtain ⟨-, -, last, early, -, -⟩ := after_start countingHost "join" 2 () 0
    [.curry 0 (.string "a"), .curry 0 (.string "b")]
  have hmessage : "filter `" ++ "join" ++ "` expects " ++ toString (max 2 1) ++ " arguments, got "
      ++ toString (0 + 1) = "filter `join` expects 2 arguments, got 1" := by decide
  refine ⟨rfl, ?_, ?_, ?_⟩
  · exact (last 1 [.string "a"] (.string "c") rfl rfl).1
  · rw [(last 2 [.string "b"] (.string "c") rfl rfl).2]
    rfl
  · rw [(early 0 [] (.string "c") rfl (by decide)).2]
    simp only [List.length_nil, hmessage]
    rfl

end RunState

end TagExpr
