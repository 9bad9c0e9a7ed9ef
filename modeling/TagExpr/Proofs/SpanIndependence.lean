/-
TagExpr/Proofs/SpanIndependence.lean

Spans do not influence evaluation.

Expressions that are the same tree up to spans ask the same of their context and their filters,
in the same order, and have the same value.  If they fail, both do, and with the same error but
for its span; that is the span which each tree stores at the position to blame:

    e.bare = e'.bare   →   evaluate e ~ evaluate e'.

So a span is carried through an evaluation and read by nobody but the error.
-/
import TagExpr.Proofs.InStep
import TagExpr.Proofs.Substitution

namespace TagExpr

variable {σ α : Type}

/-- Two evaluations of one number, of the same tree up to spans, have equal events and equal
values, or errors that differ in their spans only. -/
theorem evaluate_eq_or_error_of_bare_eq (env : Environment (StateM σ) α) (run : Nat) {e e' : Expr}
    (htree : e.bare = e'.bare) (w : σ) :
    let o := answer (evaluate env.recorded run e) (w, [])
    let o' := answer (evaluate env.recorded run e') (w, [])
    o.2.2 = o'.2.2 ∧
      ((∃ v, o.1 = .ok v ∧ o' = o) ∨
        ∃ err err', o.1 = .error err ∧ o'.1 = .error err' ∧ BlameAlike e e' err err') := by
  intro o o'
  have h : Likeness.equality.WentAlike Eq (BlameAlike e e') o o' :=
    Likeness.wentAlike_evaluate (Likeness.equality_kept rfl rfl rfl) (fun _ => rfl) htree
      (fun x _ => .refl (env.lookup x)) (fun _ => .refl env.top) rfl
  have hevents := h.events_eq
  refine ⟨hevents, ?_⟩
  clear_value o o'
  obtain ⟨r, w₁, log⟩ := o
  obtain ⟨r', w₁', log'⟩ := o'
  obtain ⟨hresult, -, hworld⟩ := h
  dsimp only at hresult hevents hworld
  cases hresult with
  | @ok v v' value =>
    -- nothing that differs has been logged, so the worlds are equal as well
    have hv : v = v' := value
    have hw : w₁ = w₁' := hworld nofun
    exact .inl ⟨v, rfl, by rw [hv, hw, hevents]⟩
  | @error err err' error => exact .inr ⟨err, err', rfl, rfl, error⟩

/-- **Spans do not influence evaluation.**  Let two expressions be the same tree up to spans.  In
every environment their evaluations make the same requests and use the same filters on the same
arguments, in the same order.  Then either both have one value and leave one world, or both fail,
with one error up to its span: it has one kind, filter text, found kind and filter error, and so
one message and the same sources, and there is a position of the tree at which each expression
stores the span of its own error.

The same holds of evaluations with different numbers, where context, filters and log do not look
at the identities of clusters: they go alike up to the identities of the clusters they make. -/
theorem evaluate_of_bare_eq {σ α : Type} (env : Environment (StateM σ) α) (e e' : Expr)
    (htree : e.bare = e'.bare) :
    (∀ run w,
      let o := answer (evaluate env.recorded run e) (w, [])
      let o' := answer (evaluate env.recorded run e') (w, [])
      o.2.2 = o'.2.2 ∧
        ((∃ v, o.1 = .ok v ∧ o' = o) ∨
          ∃ err err' path n n', o.1 = .error err ∧ o'.1 = .error err' ∧
            err' = err.withSpan err'.span ∧ err'.message = err.message ∧
            err'.sources = err.sources ∧ e.part? path = some n ∧ e'.part? path = some n' ∧
            err.span = n.span ∧ err'.span = n'.span)) ∧
    ∀ (run run' : Nat) (A : α → α → Prop) (S : σ → σ → Prop) (w w' : σ),
      (Likeness.rerun run run' A).Kept S env env →
      (∀ x ∈ e.names,
        AnsweredAlike S (Likeness.rerun run run' A).value (env.lookup x) (env.lookup x)) →
      (e.HasIterator → AnsweredAlike S (Likeness.rerun run run' A).value env.top env.top) →
      S w w' →
      (Likeness.rerun run run' A).WentAlike S (BlameAlike e e')
        (answer (evaluate env.recorded run e) (w, []))
        (answer (evaluate env.recorded run' e') (w', [])) := by
  constructor
  · intro run w o o'
    obtain ⟨hevents, hresult⟩ := evaluate_eq_or_error_of_bare_eq env run htree w
    refine ⟨hevents, ?_⟩
    rcases hresult with hvalue | ⟨err, err', herr, herr', path, n, n', hn, hn', hspan, rfl⟩
    · exact .inl hvalue
    · refine .inr ⟨err, _, path, n, n', herr, herr', ?_, ?_, ?_, hn, hn', hspan, ?_⟩
      · rw [EvalError.span_withSpan]
      · exact err.message_withSpan n'.span
      · exact err.sources_withSpan n'.span
      · exact err.span_withSpan n'.span
  · -- with two numbers, the clusters made at one place stand for each other
    intro run run' A S w w' hkept hnames htop hw
    exact Likeness.wentAlike_evaluate hkept (fun place => .made place) htree hnames htop hw

/-- `same(same(a, ...), b(a))` as it stands in a template, where nothing is called `b`, and as it is
without spans.  The argument `b(a)` is to blame. -/
theorem evaluate_of_bare_eq_nested :
    let name (s : String) (i : Nat) : Expr := .identifierAt s (.ofNat i (i + s.length))
    let same : Value Unit := .ofFilter (.host 0) (.fixed (.new "same" 2 ()))
    let c : ContextStack Unit := .ofValue (.mapping [("a", .int 1), ("same", same)])
    let env : Environment (StateM Unit) Unit := .of c.toContext comparingHost fun _ => pure ()
    let bound : Expr := .mkFiltered (name "same" 8) (name "a" 13) true
    let e : Expr := .mkFiltered (.mkFiltered (name "same" 3) bound true)
      (.mkFiltered (name "b" 22) (name "a" 24) false) false
    let L := Likeness.rerun 0 1 fun _ _ => True
    let o (run : Nat) (e : Expr) := answer (evaluate env.recorded run e) ((), [])
    e.bare = e.bare.bare ∧ L.Kept Eq env env ∧
    (∀ x ∈ e.names, AnsweredAlike Eq L.value (env.lookup x) (env.lookup x)) ∧ ¬ e.HasIterator ∧
    (o 0 e).1 = .error (.missingFilter "b" (.ofNat 22 25)) ∧
    (o 0 e.bare).1 = .error (.missingFilter "b" .dummy) ∧ (o 0 e).2.2 = (o 0 e.bare).2.2 ∧
    L.WentAlike Eq (BlameAlike e e.bare) (o 0 e) (o 1 e.bare) := by
  intro name same c env bound e L o
  have htree : e.bare = e.bare.bare := rfl
  have hkept : L.Kept Eq env env :=
    (comparingHost_respects (Identity.rerun_biUnique 0 1)).kept ..
  have hscopes : ∀ u ∈ c.scopes, L.value u u := by
    intro u hu
    obtain rfl := List.mem_singleton.mp hu
    have hsame : L.value same same :=
      Value.alike_ofFilter_new (.host 0) "same" 2 trivial
    exact .mapping (.cons (.mk "a" (.scalar _)) (.cons (.mk "same" hsame) .nil))
  have hnames : ∀ x ∈ e.names, AnsweredAlike Eq L.value (env.lookup x) (env.lookup x) := by
    intro x _
    exact Likeness.answeredAlike_lookup (List.forall₂_same.mpr hscopes) Eq x
  have hiterator : ¬ e.HasIterator := by
    simp [e, bound, name, Expr.HasIterator, Expr.mkFiltered, Expr.identifierAt]
  obtain ⟨hsingle, hdouble⟩ := evaluate_of_bare_eq env e e.bare htree
  refine ⟨htree, hkept, hnames, hiterator, rfl, rfl, (hsingle 0 ()).1, ?_⟩
  exact hdouble 0 1 _ Eq () () hkept hnames (fun h => absurd h hiterator) rfl

end TagExpr
