/-
TagExpr/Proofs/OrderedSpans.lean

Evaluations that fail can be drawn.

A report cannot be drawn if one of its labels ends before it begins.  Take an expression that is
built node by node from spans which are in order.  Merging keeps spans in order, dummy spans
among them, so every node of it stores a span in order, whatever parts have been given another
span since.  An evaluation blames a node, and the diagnostic of its error has one label, on the
span of that node:

    e built from spans in order,  evaluate e fails with err
                                         →   the report of err is drawn,

in every source, also one in which the label has no place.
-/
import TagExpr.Evaluation.Diagnosis
import TagExpr.Proofs.ReportPlace
import TagExpr.Proofs.SpanIndependence

namespace TagExpr

variable {σ α : Type}

/-! ### Spans in order -/

/-- The span does not end before it begins. -/
def Span.Ordered (s : Span) : Prop :=
  s.start.val ≤ s.stop.val

instance (s : Span) : Decidable s.Ordered :=
  inferInstanceAs (Decidable (s.start.val ≤ s.stop.val))

theorem Span.Ordered.merge {s t : Span} (hs : s.Ordered) (ht : t.Ordered) :
    (s.merge t).Ordered := by
  by_cases hsd : s = dummy
  · rwa [hsd, dummy_merge]
  by_cases htd : t = dummy
  · rwa [htd, merge_dummy]
  rw [merge_of_ne_dummy hsd htd]
  simp only [Ordered, BytePos.val_least, BytePos.val_greatest] at hs ht ⊢
  omega

/-! ### Expressions built from spans -/

namespace Expr

/-- The expression is built by the constructors from spans that `P` holds of. -/
inductive BuiltFrom (P : Span → Prop) : Expr → Prop
  | identifierAt (name : String) {s : Span} (span : P s) : BuiltFrom P (identifierAt name s)
  | implicitIterator {s : Span} (span : P s) : BuiltFrom P (implicitIterator s)
  | mkAccess {base : Expr} (hbase : BuiltFrom P base) {key : Ident} (span : P key.span) :
    BuiltFrom P (mkAccess base key)
  | mkFiltered {filter argument : Expr} (hfilter : BuiltFrom P filter)
    (hargument : BuiltFrom P argument) (curried : Bool) :
    BuiltFrom P (mkFiltered filter argument curried)
  | call {head : Expr} {args : List Expr} {e : Expr} (hhead : BuiltFrom P head)
    (hargs : ∀ a ∈ args, BuiltFrom P a) (hcall : head.call args = some e) : BuiltFrom P e
  | withSpan {e : Expr} (h : BuiltFrom P e) {s : Span} (span : P s) : BuiltFrom P (e.withSpan s)

/-- `P` holds of the span of every part. -/
def EachSpan (P : Span → Prop) (e : Expr) : Prop :=
  ∀ path n, e.part? path = some n → P n.span

variable {P : Span → Prop}

theorem part?_withSpan (b : Branch) (path : List Branch) (s : Span) (e : Expr) :
    (e.withSpan s).part? (b :: path) = e.part? (b :: path) := by
  cases e <;> cases b <;> rfl

/-- A node without parts stores one span. -/
theorem eachSpan_of_leaf {e : Expr} (hleaf : ∀ b path, e.part? (b :: path) = none)
    (hspan : P e.span) : e.EachSpan P := by
  intro path n hn
  cases path with
  | nil =>
    obtain rfl := Option.some.inj hn
    exact hspan
  | cons b path => exact absurd ((hleaf b path).symm.trans hn) nofun

theorem EachSpan.span {e : Expr} (h : e.EachSpan P) : P e.span :=
  h [] e rfl

/-- Another span on the node changes no part but the node. -/
theorem EachSpan.withSpan {e : Expr} (h : e.EachSpan P) {s : Span} (hs : P s) :
    (e.withSpan s).EachSpan P := by
  intro path n hn
  cases path with
  | nil =>
    obtain rfl := Option.some.inj hn
    rwa [span_withSpan]
  | cons b path =>
    rw [part?_withSpan] at hn
    exact h (b :: path) n hn

section Merge

variable (hmerge : ∀ s t, P s → P t → P (s.merge t))
include hmerge

theorem EachSpan.mkAccess {base : Expr} (hbase : base.EachSpan P) {key : Ident}
    (hkey : P key.span) : (mkAccess base key).EachSpan P := by
  intro path n hn
  match path, hn with
  | [], hn =>
    obtain rfl := Option.some.inj hn
    exact hmerge _ _ hbase.span hkey
  | .base :: path, hn => exact hbase path n hn

theorem EachSpan.mkFiltered {filter argument : Expr} (hfilter : filter.EachSpan P)
    (hargument : argument.EachSpan P) (curried : Bool) :
    (mkFiltered filter argument curried).EachSpan P := by
  intro path n hn
  match path, hn with
  | [], hn =>
    obtain rfl := Option.some.inj hn
    exact hmerge _ _ hfilter.span hargument.span
  | .filter :: path, hn => exact hfilter path n hn
  | .argument :: path, hn => exact hargument path n hn

theorem EachSpan.call {head : Expr} {args : List Expr} {e : Expr} (hhead : head.EachSpan P)
    (hargs : ∀ a ∈ args, a.EachSpan P) (hcall : head.call args = some e) : e.EachSpan P := by
  -- the chain grows at its head, one argument at a time
  induction args generalizing head with
  | nil => cases hcall
  | cons a args ih =>
    have hfirst := hargs a List.mem_cons_self
    cases args with
    | nil =>
      obtain rfl := Option.some.inj hcall
      exact hhead.mkFiltered hmerge hfirst false
    | cons b rest =>
      exact ih (hhead.mkFiltered hmerge hfirst true)
        (fun c hc => hargs c (List.mem_cons_of_mem a hc)) hcall

/-- **What holds of the spans an expression is built from holds of the spans it stores**, if merging
keeps it. -/
theorem BuiltFrom.eachSpan {e : Expr} (h : e.BuiltFrom P) : e.EachSpan P := by
  induction h with
  | identifierAt name span => exact eachSpan_of_leaf (fun b _ => by cases b <;> rfl) span
  | implicitIterator span => exact eachSpan_of_leaf (fun b _ => by cases b <;> rfl) span
  | mkAccess _ span ih => exact ih.mkAccess hmerge span
  | mkFiltered _ _ curried ihf iha => exact ihf.mkFiltered hmerge iha curried
  | call _ _ hcall ihhead ihargs => exact ihhead.call hmerge ihargs hcall
  | withSpan _ span ih => exact ih.withSpan span

end Merge

end Expr

/-! ### The span of an error -/

/-- An evaluation that fails has the span of a part of its expression. -/
theorem exists_part?_of_evaluate_eq_error {env : Environment (StateM σ) α} {run : Nat} {e : Expr}
    {w : σ} {err : EvalError} (h : (answer (evaluate env run e) w).1 = .error err) :
    ∃ path n, e.part? path = some n ∧ err.span = n.span := by
  obtain ⟨-, hresult⟩ := evaluate_eq_or_error_of_bare_eq env run (Eq.refl e.bare) w
  rw [answer_evaluate_recorded] at hresult
  rcases hresult with ⟨v, hv, -⟩ | ⟨_, _, herr, -, path, n, -, hn, -, hspan, -⟩
  · exact absurd (h.symm.trans hv) nofun
  · obtain rfl := Except.error.inj (h.symm.trans herr)
    exact ⟨path, n, hn, hspan⟩

/-- **A failed evaluation is drawn.**  Let an expression be built from spans that are in order.  If
its evaluation fails, the diagnostic of the error has one label, on the span of the error, which
is in order, and its report is drawn in every source where tabs have columns. -/
theorem evaluate_error_drawn {σ α : Type} (env : Environment (StateM σ) α) (run : Nat) (e : Expr)
    (hbuilt : e.BuiltFrom Span.Ordered) (w : σ) (err : EvalError)
    (herr : (answer (evaluate env run e) w).1 = .error err) :
    err.toDiagnostic.labels = [⟨err.span, err.labelText⟩] ∧ err.span.Ordered ∧
    ∀ (source filename : String) (config : ReportConfig), 1 ≤ config.tabWidth →
      ∃ text, err.toDiagnostic.render source filename config = .ok text := by
  have hlabels : err.toDiagnostic.labels = [⟨err.span, err.labelText⟩] := by
    rw [EvalError.toDiagnostic_eq]
  -- the error has the span of a part, and every part has a span in order
  obtain ⟨path, n, hn, hspan⟩ := exists_part?_of_evaluate_eq_error herr
  have hordered : err.span.Ordered := by
    rw [hspan]
    exact hbuilt.eachSpan (fun _ _ => Span.Ordered.merge) path n hn
  refine ⟨hlabels, hordered, fun source filename config htab => ?_⟩
  have hreversed : err.toDiagnostic.hasReversedLabel = false :=
    Diagnostic.hasReversedLabel_eq_false_of_le hlabels hordered
  exact Diagnostic.exists_render hreversed (Nat.ne_of_gt htab) source filename

/-- `due(day, zone)` whose head has been given a span, while `day` has none.  Nothing is called
`due`, and the source of the report ends before the spans begin. -/
theorem evaluate_error_drawn_beyond :
    let head : Expr := (Expr.identifierAt "due" .dummy).withSpan (.ofNat 3 6)
    let day : Expr := .identifierAt "day" .dummy
    let zone : Expr := .identifierAt "zone" (.ofNat 12 16)
    let c : ContextStack Unit := .ofValue (.mapping [("day", .int 4)])
    let env : Environment (StateM Unit) Unit := .of c.toContext comparingHost fun _ => pure ()
    let err : EvalError := .missingFilter "due" (.ofNat 3 6)
    ∃ e, head.call [day, zone] = some e ∧ e.span = .ofNat 3 16 ∧ e.BuiltFrom Span.Ordered ∧
      (answer (evaluate env 0 e) ()).1 = .error err ∧
      err.toDiagnostic.labels = [⟨err.span, "`due` is not defined"⟩] ∧ err.span.Ordered ∧
      ∃ text, err.toDiagnostic.render "due" "bill.mustache" .plain = .ok text := by
  intro head day zone c env err
  -- the spans that the expression is built from, one by one
  have hdummy : Span.dummy.Ordered := by decide
  have hhead : head.BuiltFrom Span.Ordered :=
    .withSpan (.identifierAt "due" hdummy) (by decide)
  have hday : day.BuiltFrom Span.Ordered := .identifierAt "day" hdummy
  have hzone : zone.BuiltFrom Span.Ordered := .identifierAt "zone" (by decide)
  have hargs : ∀ a ∈ [day, zone], a.BuiltFrom Span.Ordered :=
    List.forall_mem_cons.mpr ⟨hday, List.forall_mem_singleton.mpr hzone⟩
  have hbuilt : (Expr.mkFiltered (.mkFiltered head day true) zone false).BuiltFrom
      Span.Ordered := .call hhead hargs rfl
  obtain ⟨hlabels, hordered, hdrawn⟩ := evaluate_error_drawn env 0 _ hbuilt () err rfl
  exact ⟨_, rfl, rfl, hbuilt, rfl, hlabels, hordered,
    hdrawn "due" "bill.mustache" .plain (by decide)⟩

end TagExpr
