/-
TagExpr/Proofs/Holdings.lean

Which clusters a value holds, and where an evaluation has its clusters from.

A value holds every cluster that it leads to: itself, its items and entries, what a cluster
answers to a key, and what a filter has bound.  An action of the host may hold clusters as well,
and so may a world; `Holdings` says which.  A request hands on a cluster that it is given or
that the world has.  One that comes up with any other cluster has made it.

Context, host and log may make clusters of their own, so what they hand on is asked of one
identity at a time.  If they only hand on the identity `i`, then so does every evaluation that
makes no cluster with it:

    ¬ w holds i   →   ¬ outcome env run place e w holds i     for i not made below `place`.
-/
import TagExpr.Proofs.Arity
import TagExpr.Proofs.Entries
import TagExpr.Value.Equality

namespace TagExpr

variable {σ α β : Type}

/-- The clusters, by their identities, that actions of the host and worlds hold. -/
structure Holdings (σ α : Type) where
  action : α → Identity → Prop
  world : σ → Identity → Prop

/-! ### What values hold -/

section Holds

variable (A : α → Identity → Prop)

mutual

/-- A value holds a cluster, where actions hold what `A` says. -/
inductive Value.Holds : Value α → Identity → Prop
  | itself (c) : Value.Holds (.cluster c) c.identity
  | item {items v i} (hv : v ∈ items) (h : Value.Holds v i) : Value.Holds (.sequence items) i
  | entry {entries key v i} (hv : (key, v) ∈ entries) (h : Value.Holds v i) :
    Value.Holds (.mapping entries) i
  | key {c key v i} (hv : c.get? key = some v) (h : Value.Holds v i) : Value.Holds (.cluster c) i
  | filter {c f i} (hf : c.filter = some f) (h : Filter.Holds f i) : Value.Holds (.cluster c) i

/-- A filter holds a cluster: in an argument that it has bound or in its action. -/
inductive Filter.Holds : Filter α (Value α) → Identity → Prop
  | bound {f v i} (hv : v ∈ f.bound) (h : Value.Holds v i) : Filter.Holds (.fixed f) i
  | action {f i} (h : A f.action i) : Filter.Holds (.fixed f) i
  | custom {name a i} (h : A a i) : Filter.Holds (.custom name a) i

end

variable {A} {i : Identity}

namespace Value

theorem not_holds_none : ¬ (Value.none : Value α).Holds A i :=
  nofun

theorem not_holds_getD {o : Option (Value α)} (h : ∀ v, o = some v → ¬ v.Holds A i) :
    ¬ (o.getD .none).Holds A i := by
  cases o with
  | none => exact not_holds_none
  | some v => exact h v rfl

/-- What a key gives holds nothing that the value does not hold. -/
theorem not_holds_get {v : Value α} (h : ¬ v.Holds A i) (key : String) :
    ¬ (v.get key).Holds A i := by
  cases v with
  | mapping entries => exact not_holds_getD fun u hu hi => h (.entry (Entries.mem_of_lookup hu) hi)
  | cluster c => exact not_holds_getD fun u hu hi => h (.key hu hi)
  | _ => exact not_holds_none

/-- Nor does the filter that it exposes. -/
theorem not_holds_filter? {v : Value α} (h : ¬ v.Holds A i) {f : Filter α (Value α)}
    (hf : v.filter? = some f) : ¬ f.Holds A i := by
  cases v with
  | cluster c => exact fun hi => h (.filter hf hi)
  | _ => cases hf

/-- A mapping holds what its entries hold. -/
theorem holds_mapping_iff {entries : List (String × Value α)} :
    (mapping entries).Holds A i ↔ ∃ e ∈ entries, e.2.Holds A i := by
  constructor
  · intro h
    cases h with
    | entry hv h => exact ⟨_, hv, h⟩
  · rintro ⟨⟨key, v⟩, hv, h⟩
    exact .entry hv h

/-- A filter as a value holds itself and what the filter holds. -/
theorem holds_ofFilter_iff {j : Identity} {f : Filter α (Value α)} :
    (ofFilter j f).Holds A i ↔ i = j ∨ f.Holds A i := by
  constructor
  · intro h
    cases h with
    | itself c => exact .inl rfl
    | key hv _ => cases hv
    | filter hf h =>
      cases hf
      exact .inr h
  · rintro (rfl | h)
    · exact .itself _
    · exact .filter rfl h

end Value

/-- A filter that has bound one more argument holds nothing else besides. -/
theorem Filter.holds_of_bind? {f g : FixedFilter α (Value α)} {a : Value α}
    (h : f.bind? a = some g) (hg : Filter.Holds A (.fixed g) i) :
    Filter.Holds A (.fixed f) i ∨ a.Holds A i := by
  obtain ⟨-, rfl⟩ := FixedFilter.bind?_eq_some h
  cases hg with
  | bound hv hi =>
    rw [List.mem_append, List.mem_singleton] at hv
    rcases hv with hv | rfl
    · exact .inl (.bound hv hi)
    · exact .inr hi
  | action hi => exact .inl (.action hi)

namespace ContextStack

/-- What a name means holds nothing that the scopes do not hold, ... -/
theorem not_holds_lookup {c : ContextStack α} (h : ∀ s ∈ c.scopes, ¬ s.Holds A i)
    (name : String) : ¬ (c.lookup name).Holds A i := by
  obtain ⟨scopes⟩ := c
  induction scopes with
  | nil => exact Value.not_holds_none
  | cons s rest ih =>
    obtain ⟨hs, hrest⟩ := List.forall_mem_cons.mp h
    simp only [lookup, lookupIn]
    split
    · exact ih hrest
    · exact Value.not_holds_get hs name

/-- ... and nor does the innermost scope. -/
theorem not_holds_top {c : ContextStack α} (h : ∀ s ∈ c.scopes, ¬ s.Holds A i) :
    ¬ c.top.Holds A i :=
  Value.not_holds_getD fun s hs => h s (List.mem_of_mem_head? hs)

end ContextStack

end Holds

/-- A value is not equal to a cluster that it does not hold. -/
theorem Value.equal_ofFilter_eq_false {A : α → Identity → Prop} {i : Identity} {u : Value α}
    (h : ¬ u.Holds A i) (f : Filter α (Value α)) : (ofFilter i f).equal u = false := by
  cases u with
  | cluster c =>
    simp only [ofFilter, equal, decide_eq_false_iff_not]
    rintro rfl
    exact h (.itself c)
  | _ => rfl

/-! ### Requests that hand on -/

/-- A request only hands on the cluster `i`: if `i` is in the answer, as `holds` says, or in the
world after it, then it was `given` or in the world before. -/
def Holdings.HandsOn (H : Holdings σ α) (i : Identity) (given : Prop) (holds : β → Prop)
    (x : StateM σ β) : Prop :=
  ∀ w, holds (answer x w).1 ∨ H.world (answer x w).2 i → given ∨ H.world w i

section HandsOn

variable (H : Holdings σ α) (i : Identity)

/-- The value that a filter comes to holds a cluster. -/
def FilterResult.Holds (r : FilterResult α) : Prop :=
  ∃ v, r = .ok (some v) ∧ v.Holds H.action i

/-- There is a filter, and it holds a cluster. -/
def Filter.SomeHolds (o : Option (Filter α (Value α))) : Prop :=
  ∃ g, o = some g ∧ g.Holds H.action i

/-- What names and the implicit iterator mean is handed on from the world. -/
structure Context.HandsOn (context : Context (StateM σ) α) : Prop where
  lookup : ∀ name, H.HandsOn i False (·.Holds H.action i) (context.lookup name)
  top : H.HandsOn i False (·.Holds H.action i) context.top

/-- The filters of a host hand on what they are given or hold. -/
structure Host.HandsOn (host : Host (StateM σ) α) : Prop where
  run : ∀ a vs, H.HandsOn i (H.action a i ∨ ∃ v ∈ vs, v.Holds H.action i)
    (FilterResult.Holds H i) (host.run a vs)
  apply : ∀ a v, H.HandsOn i (H.action a i ∨ v.Holds H.action i) (FilterResult.Holds H i)
    (host.apply a v)
  curry : ∀ a v, H.HandsOn i (H.action a i ∨ v.Holds H.action i) (Filter.SomeHolds H i)
    (host.curry a v)

/-- Everything in an environment hands on. -/
structure Environment.HandsOn (env : Environment (StateM σ) α) : Prop where
  context : env.toContext.HandsOn H i
  apply : ∀ f a, H.HandsOn i (f.Holds H.action i ∨ a.Holds H.action i) (FilterResult.Holds H i)
    (env.apply f a)
  curry : ∀ f a, H.HandsOn i (f.Holds H.action i ∨ a.Holds H.action i) (Filter.SomeHolds H i)
    (env.curry f a)
  report : ∀ r, H.HandsOn i False (fun _ => False) (env.report r)

end HandsOn

section Requests

variable {H : Holdings σ α} {i : Identity}

theorem Holdings.handsOn_pure {given : Prop} {holds : β → Prop} {b : β} (h : holds b → given) :
    H.HandsOn i given holds (pure b) :=
  fun _ hw => hw.imp_left h

theorem Holdings.handsOn_of_not {given : Prop} {holds : β → Prop} {x : StateM σ β}
    (h : ∀ w, ¬ given → ¬ H.world w i → ¬ holds (answer x w).1 ∧ ¬ H.world (answer x w).2 i) :
    H.HandsOn i given holds x := by
  intro w hw
  by_contra hnot
  obtain ⟨hgiven, hworld⟩ := not_or.mp hnot
  exact hw.elim (h w hgiven hworld).1 (h w hgiven hworld).2

theorem Holdings.HandsOn.mono {given given' : Prop} {holds : β → Prop} {x : StateM σ β}
    (h : H.HandsOn i given holds x) (hgiven : given → given') : H.HandsOn i given' holds x :=
  fun w hw => (h w hw).imp_left hgiven

/-- What is neither given nor in the world is not in the answer, ... -/
theorem Holdings.HandsOn.not_answer {given : Prop} {holds : β → Prop} {x : StateM σ β}
    (h : H.HandsOn i given holds x) {w : σ} (hgiven : ¬ given) (hw : ¬ H.world w i) :
    ¬ holds (answer x w).1 :=
  fun hi => (h w (.inl hi)).elim hgiven hw

/-- ... nor in the world after it. -/
theorem Holdings.HandsOn.not_world {given : Prop} {holds : β → Prop} {x : StateM σ β}
    (h : H.HandsOn i given holds x) {w : σ} (hgiven : ¬ given) (hw : ¬ H.world w i) :
    ¬ H.world (answer x w).2 i :=
  fun hi => (h w (.inr hi)).elim hgiven hw

/-- Filters of a fixed number of arguments hand on what they have bound, with the last argument,
to the host. -/
theorem Host.HandsOn.environment {host : Host (StateM σ) α} (h : host.HandsOn H i)
    {context : Context (StateM σ) α} (hcontext : context.HandsOn H i)
    {report : Record → StateM σ Unit}
    (hreport : ∀ r, H.HandsOn i False (fun _ => False) (report r)) :
    (Environment.of context host report).HandsOn H i where
  context := hcontext
  report := hreport
  apply f a := by
    cases f with
    | custom name action => exact (h.apply action a).mono (Or.imp_left .custom)
    | fixed f =>
      -- the host gets the bound values and the argument, or else only an error is given
      by_cases hlast : f.remaining = 1
      · simp only [Environment.of, Filter.apply, hlast, ne_eq, not_true_eq_false, if_false]
        refine (h.run f.action (f.bound ++ [a])).mono ?_
        rintro (haction | ⟨v, hv, hi⟩)
        · exact .inl (.action haction)
        · rw [List.mem_append, List.mem_singleton] at hv
          rcases hv with hv | rfl
          · exact .inl (.bound hv hi)
          · exact .inr hi
      · simp only [Environment.of, Filter.apply, hlast, ne_eq, not_false_eq_true, if_true]
        refine Holdings.handsOn_pure ?_
        rintro ⟨v, hv, -⟩
        cases hv
  curry f a := by
    cases f with
    | custom name action => exact (h.curry action a).mono (Or.imp_left .custom)
    | fixed f =>
      -- binding asks nothing of the host
      refine Holdings.handsOn_pure ?_
      rintro ⟨g, hg, hi⟩
      obtain ⟨k, hk, rfl⟩ := Option.map_eq_some_iff.mp hg
      exact Filter.holds_of_bind? hk hi

end Requests

/-! ### What outcomes hold -/

/-- An outcome holds a cluster, in its value or in the world. -/
def Outcome.Holds (H : Holdings σ α) (i : Identity) (o : Outcome σ α) : Prop :=
  (∃ v, o.1 = .ok v ∧ v.Holds H.action i) ∨ H.world o.2 i

namespace Outcome

variable {H : Holdings σ α} {i : Identity} {w : σ}

@[simp] theorem holds_ok {v : Value α} :
    Holds H i (.ok v, w) ↔ v.Holds H.action i ∨ H.world w i := by
  simp [Holds]

@[simp] theorem holds_error {err : EvalError} : Holds H i (.error err, w) ↔ H.world w i := by
  simp [Holds]

theorem not_holds_andThen {o : Outcome σ α} {next : Value α → σ → Outcome σ α}
    (h : ¬ o.Holds H i)
    (hnext : ∀ v w, ¬ v.Holds H.action i → ¬ H.world w i → ¬ (next v w).Holds H i) :
    ¬ (o.andThen next).Holds H i := by
  obtain ⟨err | v, w⟩ := o
  · exact h
  · rw [holds_ok, not_or] at h
    exact hnext v w h.1 h.2

end Outcome

/-! ### What evaluations hold -/

/-- A cluster is made in the evaluation numbered `run`, at the place of an expression or below. -/
def Identity.MadeWithin (run : Nat) (place : List Branch) (i : Identity) : Prop :=
  ∃ q, i = .curried run (q ++ place)

namespace Identity.MadeWithin

variable {run : Nat} {place : List Branch} {i : Identity}

theorem self : (Identity.curried run place).MadeWithin run place :=
  ⟨[], rfl⟩

theorem of_cons {b : Branch} (h : i.MadeWithin run (b :: place)) : i.MadeWithin run place := by
  obtain ⟨q, rfl⟩ := h
  exact ⟨q ++ [b], by rw [List.append_assoc, List.singleton_append]⟩

end Identity.MadeWithin

section Evaluations

variable {H : Holdings σ α} {i : Identity} {env : Environment (StateM σ) α} {run : Nat}
  {place : List Branch} {w : σ}

/-- Binding holds what the filter holds, and the cluster that it makes. -/
theorem not_holds_boundOutcome (hi : i ≠ .curried run place) (filter : Expr) (span : Span)
    {p : Option (Filter α (Value α)) × σ} (hp : ¬ Filter.SomeHolds H i p.1)
    (hw : ¬ H.world p.2 i) : ¬ (boundOutcome run place filter span p).Holds H i := by
  obtain ⟨- | g, w⟩ := p
  · rw [boundOutcome, Outcome.holds_error]
    exact hw
  · rw [boundOutcome, Outcome.holds_ok, Value.holds_ofFilter_iff]
    rintro ((rfl | hg) | hw')
    · exact hi rfl
    · exact hp ⟨g, rfl, hg⟩
    · exact hw hw'

theorem not_holds_appliedOutcome (henv : env.HandsOn H i) (name : String) (span : Span)
    {p : FilterResult α × σ} (hp : ¬ FilterResult.Holds H i p.1) (hw : ¬ H.world p.2 i) :
    ¬ (appliedOutcome env name span p).Holds H i := by
  obtain ⟨err | - | u, w⟩ := p
  · rw [appliedOutcome, Outcome.holds_error]
    exact hw
  · rw [appliedOutcome, Outcome.holds_ok, not_or]
    exact ⟨Value.not_holds_none, (henv.report _).not_world not_false hw⟩
  · rw [appliedOutcome, Outcome.holds_ok, not_or]
    exact ⟨fun hu => hp ⟨u, rfl, hu⟩, hw⟩

/-- A node holds what its sides hold, and the cluster that it makes. -/
theorem not_holds_used (henv : env.HandsOn H i) (hi : i ≠ .curried run place) (filter : Expr)
    (curried : Bool) (span : Span) {v a : Value α} (hv : ¬ v.Holds H.action i)
    (ha : ¬ a.Holds H.action i) (hw : ¬ H.world w i) :
    ¬ (used env run place filter curried span v a w).Holds H i := by
  rcases hf : v.filter? with - | f
  · rw [used_of_filter?_eq_none hf, Outcome.holds_error]
    exact hw
  · -- the filter was exposed by the value, so nothing new is given to it
    have hgiven : ¬ (f.Holds H.action i ∨ a.Holds H.action i) :=
      not_or.mpr ⟨Value.not_holds_filter? hv hf, ha⟩
    cases curried with
    | true =>
      have hcurry := henv.curry f a
      rw [used_curried hf]
      exact not_holds_boundOutcome hi filter span (hcurry.not_answer hgiven hw)
        (hcurry.not_world hgiven hw)
    | false =>
      have happly := henv.apply f a
      rw [used_applied hf]
      exact not_holds_appliedOutcome henv f.name span (happly.not_answer hgiven hw)
        (happly.not_world hgiven hw)

/-- **An evaluation holds no cluster but those of its world and those that it makes.** -/
theorem not_holds_outcome (henv : env.HandsOn H i) {e : Expr} (hi : ¬ i.MadeWithin run place)
    (hw : ¬ H.world w i) : ¬ (outcome env run place e w).Holds H i := by
  -- what is not made below a node is not made below its sides
  induction e generalizing place w with
  | identifier x s =>
    have hx := henv.context.lookup x.name
    rw [outcome_identifier, Outcome.holds_ok, not_or]
    exact ⟨hx.not_answer not_false hw, hx.not_world not_false hw⟩
  | implicitIterator s =>
    have htop := henv.context.top
    rw [outcome_implicitIterator, Outcome.holds_ok, not_or]
    exact ⟨htop.not_answer not_false hw, htop.not_world not_false hw⟩
  | access base key s ih =>
    rw [outcome_access]
    refine Outcome.not_holds_andThen (ih (hi ∘ .of_cons) hw) fun v w₁ hv hw₁ => ?_
    rw [Outcome.holds_ok, not_or]
    exact ⟨Value.not_holds_get hv key.name, hw₁⟩
  | filtered filter argument curried s ihf iha =>
    rw [outcome_filtered]
    refine Outcome.not_holds_andThen (ihf (hi ∘ .of_cons) hw) fun v w₁ hv hw₁ => ?_
    refine Outcome.not_holds_andThen (iha (hi ∘ .of_cons) hw₁) fun a w₂ ha hw₂ => ?_
    refine not_holds_used henv ?_ filter curried s hv ha hw₂
    rintro rfl
    exact hi .self

/-- The text of an expression in the log is no cluster. -/
theorem not_world_openedWorld (henv : env.HandsOn H i) (e : Expr) (hw : ¬ H.world w i) :
    ¬ H.world (openedWorld env e w) i :=
  (henv.report .entered).not_world not_false
    ((henv.report (.opened e.print)).not_world not_false hw)

/-- Nor is a failure. -/
theorem not_holds_closed (henv : env.HandsOn H i) {o : Outcome σ α} (ho : ¬ o.Holds H i) :
    ¬ Outcome.Holds H i (o.1, closedWorld env o) := by
  obtain ⟨err | v, w⟩ := o
  · rw [Outcome.holds_error] at ho ⊢
    exact (henv.report .exited).not_world not_false
      ((henv.report err.record).not_world not_false ho)
  · rw [Outcome.holds_ok, not_or] at ho ⊢
    exact ⟨ho.1, (henv.report .exited).not_world not_false ho.2⟩

/-- A whole evaluation hands on what its environment does and does not make. -/
theorem not_holds_evaluate (henv : env.HandsOn H i) {e : Expr} (hi : ¬ i.MadeWithin run [])
    (hw : ¬ H.world w i) : ¬ Outcome.Holds H i (answer (evaluate env run e) w) := by
  rw [answer_evaluate]
  exact not_holds_closed henv
    (not_holds_outcome henv hi (not_world_openedWorld henv e hw))

end Evaluations

end TagExpr
