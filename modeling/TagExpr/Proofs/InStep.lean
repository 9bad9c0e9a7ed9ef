/-
TagExpr/Proofs/InStep.lean

Two evaluations that go in step.

Take two expressions that are the same tree up to spans, and two environments that answer
alike: their contexts give like values for the names of the tree, their filters do like things
with like arguments, and what they do to their worlds keeps the worlds related.  Then both
evaluations make like requests and like uses of filters, in the same order, and come to

    two values that are alike,   or
    two errors that differ in nothing but their spans,
        which are the spans of the two trees at one position.

There is one lemma for each kind of inner node, which says that two such nodes go in step if
their sides do (`inStep_access`, `inStep_filtered`).  The law is one induction over the tree by
means of these (`inStep_outcome`); the trees may stand at different places and in different
contexts.  Values of the two sides never need to be compared again: whatever the evaluator does
with a value respects every likeness.

With equality for a likeness, every environment answers like itself, so two such evaluations of
one number are equal.  Evaluations with numbers of their own make clusters of their own, and are
alike up to the identities of these (`Identity.Rerun`).
-/
import TagExpr.Proofs.Arity
import TagExpr.Proofs.Likeness
import TagExpr.Proofs.Reading
import TagExpr.Proofs.Trace

namespace TagExpr

variable {σ α β γ : Type}

/-! ### Positions and spans -/

/-- The part of an expression at the end of a path that begins at its root. -/
def Expr.part? : List Branch → Expr → Option Expr
  | [], e => some e
  | .base :: path, .access base _ _ => base.part? path
  | .filter :: path, .filtered filter _ _ _ => filter.part? path
  | .argument :: path, .filtered _ argument _ _ => argument.part? path
  | _ :: _, _ => none

/-- The same error at another span. -/
def EvalError.withSpan (s : Span) : EvalError → EvalError
  | missingFilter filter _ => missingFilter filter s
  | notAFilter filter found _ => notAFilter filter found s
  | tooManyArguments filter _ => tooManyArguments filter s
  | filterExecution source _ => filterExecution source s

namespace EvalError

theorem withSpan_self (err : EvalError) : err.withSpan err.span = err := by
  cases err <;> rfl

@[simp] theorem span_withSpan (s : Span) (err : EvalError) : (err.withSpan s).span = s := by
  cases err <;> rfl

@[simp] theorem message_withSpan (s : Span) (err : EvalError) :
    (err.withSpan s).message = err.message := by
  cases err <;> rfl

@[simp] theorem sources_withSpan (s : Span) (err : EvalError) :
    (err.withSpan s).sources = err.sources := by
  cases err <;> rfl

end EvalError

/-- Two errors blame two expressions at one position: each has the span that stands there, and
nothing else tells them apart. -/
def BlameAlike (e e' : Expr) (err err' : EvalError) : Prop :=
  ∃ path n n', e.part? path = some n ∧ e'.part? path = some n' ∧
    err.span = n.span ∧ err' = err.withSpan n'.span

/-- On one expression such errors are equal. -/
theorem BlameAlike.eq {e : Expr} {err err' : EvalError} (h : BlameAlike e e err err') :
    err = err' := by
  obtain ⟨path, n, n', hn, hn', hspan, rfl⟩ := h
  obtain rfl := Option.some.inj (hn.symm.trans hn')
  rw [← hspan, EvalError.withSpan_self]

/-! ### Errors of two nodes -/

/-- Errors of two filtered nodes that differ at most in what they take from their nodes, which is
the text of the filter side and the span. -/
inductive NodeErrors (filter filter' : Expr) (s s' : Span) : EvalError → EvalError → Prop
  | missingFilter :
    NodeErrors filter filter' s s' (.missingFilter filter.print s) (.missingFilter filter'.print s')
  | notAFilter (found) : NodeErrors filter filter' s s' (.notAFilter filter.print found s)
      (.notAFilter filter'.print found s')
  | tooManyArguments : NodeErrors filter filter' s s' (.tooManyArguments filter.print s)
      (.tooManyArguments filter'.print s')
  | filterExecution (source) :
    NodeErrors filter filter' s s' (.filterExecution source s) (.filterExecution source s')

/-- If both filter sides have one text, the errors differ in their spans only. -/
theorem NodeErrors.eq_withSpan {filter filter' : Expr} {s s' : Span} {err err' : EvalError}
    (h : NodeErrors filter filter' s s' err err') (hprint : filter.print = filter'.print) :
    err.span = s ∧ err' = err.withSpan s' := by
  cases h with
  | missingFilter => exact ⟨rfl, congrArg (EvalError.missingFilter · s') hprint.symm⟩
  | notAFilter found => exact ⟨rfl, congrArg (EvalError.notAFilter · found s') hprint.symm⟩
  | tooManyArguments => exact ⟨rfl, congrArg (EvalError.tooManyArguments · s') hprint.symm⟩
  | filterExecution source => exact ⟨rfl, rfl⟩

/-- Two errors are those of two filtered nodes that stand at one position of two trees. -/
def ErrorsAtNode (e e' : Expr) (err err' : EvalError) : Prop :=
  ∃ path filter argument curried s filter' argument' curried' s',
    e.part? path = some (.filtered filter argument curried s) ∧
    e'.part? path = some (.filtered filter' argument' curried' s') ∧
    NodeErrors filter filter' s s' err err'

/-- The parts of a tree without spans. -/
theorem Expr.part?_bare (path : List Branch) (e : Expr) :
    e.bare.part? path = (e.part? path).map Expr.bare := by
  induction path generalizing e with
  | nil => rfl
  | cons b path ih =>
    cases b <;> cases e <;> simp only [Expr.bare, Expr.part?, Option.map_none, ih]

namespace ErrorsAtNode

variable {e e' : Expr} {err err' : EvalError}

/-- In trees that are the same up to spans such errors blame one position. -/
theorem blameAlike (h : ErrorsAtNode e e' err err') (htree : e.bare = e'.bare) :
    BlameAlike e e' err err' := by
  obtain ⟨path, filter, argument, curried, s, filter', argument', curried', s', hn, hn', herr⟩ := h
  -- the two nodes are the same up to spans, so their filter sides have one text
  have hbare := congrArg (Expr.part? path) htree
  rw [Expr.part?_bare, Expr.part?_bare, hn, hn'] at hbare
  simp only [Option.map_some, Option.some.injEq, Expr.bare, Expr.filtered.injEq] at hbare
  have hprint : filter.print = filter'.print := by
    rw [← Expr.print_bare filter, hbare.1, Expr.print_bare]
  obtain ⟨hspan, hsame⟩ := herr.eq_withSpan hprint
  exact ⟨path, _, _, hn, hn', hspan, hsame⟩

/-- In one tree such errors are those of one node. -/
theorem of_self (h : ErrorsAtNode e e err err') :
    ∃ filter s, NodeErrors filter filter s s err err' := by
  obtain ⟨path, filter, argument, curried, s, filter', argument', curried', s', hn, hn', herr⟩ := h
  cases hn.symm.trans hn'
  exact ⟨filter, s, herr⟩

theorem access {base base' : Expr} (key key' : Ident) (s s' : Span)
    (h : ErrorsAtNode base base' err err') :
    ErrorsAtNode (.access base key s) (.access base' key' s') err err' := by
  obtain ⟨path, h⟩ := h
  exact ⟨.base :: path, h⟩

variable {filter filter' argument argument' : Expr} (curried curried' : Bool) (s s' : Span)

theorem filterSide (h : ErrorsAtNode filter filter' err err') :
    ErrorsAtNode (.filtered filter argument curried s) (.filtered filter' argument' curried' s')
      err err' := by
  obtain ⟨path, h⟩ := h
  exact ⟨.filter :: path, h⟩

theorem argumentSide (h : ErrorsAtNode argument argument' err err') :
    ErrorsAtNode (.filtered filter argument curried s) (.filtered filter' argument' curried' s')
      err err' := by
  obtain ⟨path, h⟩ := h
  exact ⟨.argument :: path, h⟩

theorem root (h : NodeErrors filter filter' s s' err err') :
    ErrorsAtNode (.filtered filter argument curried s) (.filtered filter' argument' curried' s')
      err err' :=
  ⟨[], _, _, _, _, _, _, _, _, rfl, rfl, h⟩

end ErrorsAtNode

/-! ### Environments that answer alike -/

/-- Two requests are answered alike: in worlds that `S` relates, `P` relates the answers and `S`
the worlds after them. -/
def AnsweredAlike (S : σ → σ → Prop) (P : β → γ → Prop) (x : StateM σ β) (y : StateM σ γ) : Prop :=
  ∀ w w', S w w' → P (answer x w).1 (answer y w').1 ∧ S (answer x w).2 (answer y w').2

theorem AnsweredAlike.pure {S : σ → σ → Prop} {P : β → γ → Prop} {b : β} {c : γ} (h : P b c) :
    AnsweredAlike S P (pure b) (pure c) :=
  fun _ _ hw => ⟨h, hw⟩

/-- A request is answered like itself in one world. -/
theorem AnsweredAlike.refl (x : StateM σ β) : AnsweredAlike Eq Eq x x := by
  rintro w _ rfl
  exact ⟨rfl, rfl⟩

/-- The filters and the logs of two environments keep a likeness of values and a relation of
worlds. -/
structure Likeness.Kept (L : Likeness α) (S : σ → σ → Prop)
    (env env' : Environment (StateM σ) α) : Prop where
  name_eq : ∀ {f g}, L.filter f g → f.name = g.name
  apply : ∀ {f g a b}, L.filter f g → L.value a b →
    AnsweredAlike S L.Result (env.apply f a) (env'.apply g b)
  curry : ∀ {f g a b}, L.filter f g → L.value a b →
    AnsweredAlike S (Option.Rel L.filter) (env.curry f a) (env'.curry g b)
  report : ∀ r, AnsweredAlike S (fun _ _ => True) (env.report r) (env'.report r)

/-- As many arguments are missing of filters that take as many and have bound as many. -/
theorem FixedFilter.remaining_eq {f g : FixedFilter α (Value α)}
    {P : Value α → Value α → Prop} (harity : f.arity = g.arity)
    (hbound : List.Forall₂ P f.bound g.bound) : f.remaining = g.remaining := by
  rw [remaining, harity, hbound.length_eq, remaining]

/-- Filters of a host that does not look at identities keep likeness up to identities.  A filter
that misses further arguments binds one, or fails, without the host. -/
theorem Host.Respects.kept {host : Host (StateM Unit) α} {R : Identity → Identity → Prop}
    {A : α → α → Prop} (h : host.Respects R A) (c c' : Context (StateM Unit) α)
    (report report' : Record → StateM Unit Unit) :
    (Likeness.upTo R A).Kept Eq (.of c host report) (.of c' host report') where
  name_eq hf := hf.name_eq
  report _ _ _ _ := ⟨trivial, rfl⟩
  apply hf ha _ _ _ := by
    refine ⟨?_, rfl⟩
    cases hf with
    | custom name action => exact h.apply action ha
    | @fixed f g name arity bound action =>
      have hremaining : f.remaining = g.remaining := FixedFilter.remaining_eq arity bound
      by_cases hlast : g.remaining = 1
      · rw [← hremaining] at hlast
        rw [answer_apply_fixed_of_last hlast, answer_apply_fixed_of_last (hremaining ▸ hlast)]
        exact h.run action (List.rel_append bound (.cons ha .nil))
      · -- a filter of which arguments are missing fails with numbers that both have
        have hearly : f.tooEarly = g.tooEarly := by
          simp only [FixedFilter.tooEarly, name, arity, bound.length_eq]
        rw [answer_apply_fixed_of_early hlast, answer_apply_fixed_of_early (hremaining ▸ hlast),
          hearly]
        exact .error _
  curry hf ha _ _ _ := by
    refine ⟨?_, rfl⟩
    cases hf with
    | custom name action => exact h.curry action ha
    | @fixed f g name arity bound action =>
      have hremaining : f.remaining = g.remaining := FixedFilter.remaining_eq arity bound
      rw [answer_curry_fixed, answer_curry_fixed, FixedFilter.bind?, FixedFilter.bind?, hremaining]
      split
      · exact .none
      · exact .some (.fixed name arity (List.rel_append bound (.cons ha .nil)) action)

/-- Stacks whose scopes are alike answer alike. -/
theorem Likeness.answeredAlike_lookup {L : Likeness α} {c c' : ContextStack α}
    (h : List.Forall₂ L.value c.scopes c'.scopes) (S : σ → σ → Prop) (name : String) :
    AnsweredAlike S L.value (c.toContext.lookup name) (c'.toContext.lookup name) :=
  .pure (value_lookup h name)

/-! ### Results in step -/

/-- Results that are alike: two values that are, or two errors that `E` relates. -/
inductive Likeness.ResultAlike (L : Likeness α) (E : EvalError → EvalError → Prop) :
    Except EvalError (Value α) → Except EvalError (Value α) → Prop
  | ok {v v'} (value : L.value v v') : L.ResultAlike E (.ok v) (.ok v')
  | error {err err'} (error : E err err') : L.ResultAlike E (.error err) (.error err')

/-- Outcomes in step: their results are alike and their worlds are related. -/
structure Likeness.InStep (L : Likeness α) (S : σ → σ → Prop) (E : EvalError → EvalError → Prop)
    (o o' : Outcome σ α) : Prop where
  result : L.ResultAlike E o.1 o'.1
  world : S o.2 o'.2

namespace Likeness

variable {L : Likeness α} {S : σ → σ → Prop} {E F : EvalError → EvalError → Prop}
  {o o' : Outcome σ α}

theorem ResultAlike.mono {r r' : Except EvalError (Value α)} (h : L.ResultAlike E r r')
    (hE : ∀ err err', E err err' → F err err') : L.ResultAlike F r r' := by
  cases h with
  | ok value => exact .ok value
  | error error => exact .error (hE _ _ error)

theorem InStep.mono (h : L.InStep S E o o') (hE : ∀ err err', E err err' → F err err') :
    L.InStep S F o o' :=
  ⟨h.result.mono hE, h.world⟩

/-- What goes on in step from values in step is in step. -/
theorem InStep.andThen {next next' : Value α → σ → Outcome σ α} (h : L.InStep S E o o')
    (hnext : ∀ v v' w w', L.value v v' → S w w' → L.InStep S E (next v w) (next' v' w')) :
    L.InStep S E (o.andThen next) (o'.andThen next') := by
  obtain ⟨r, w⟩ := o
  obtain ⟨r', w'⟩ := o'
  obtain ⟨hr, hw⟩ := h
  dsimp only at hr hw
  cases hr with
  | ok value => exact hnext _ _ _ _ value hw
  | error error => exact ⟨.error error, hw⟩

/-- An outcome in step with a value is a value. -/
theorem InStep.exists_ok {v' : Value α} {w' : σ} (h : L.InStep S E o (.ok v', w')) :
    ∃ v w, o = (.ok v, w) ∧ L.value v v' ∧ S w w' := by
  obtain ⟨r, w⟩ := o
  obtain ⟨hr, hw⟩ := h
  dsimp only at hr hw
  cases hr with
  | ok value => exact ⟨_, _, rfl, value, hw⟩

/-! ### One node -/

section Node

variable {env env' : Environment (StateM σ) α} {run run' : Nat} {place place' : List Branch}
  {filter filter' : Expr} {s s' : Span}

theorem nodeErrors_refusal {v v' : Value α} (h : L.value v v') :
    NodeErrors filter filter' s s' (refusal filter v s) (refusal filter' v' s') := by
  by_cases hv : v = .none
  · have hv' : v' = .none := (eq_none_iff h).mp hv
    subst hv hv'
    exact .missingFilter
  · have hv' : v' ≠ .none := mt (eq_none_iff h).mpr hv
    rw [refusal_eq_of_ne_none hv, refusal_eq_of_ne_none hv', L.kindName_eq h]
    exact .notAFilter v'.kindName

/-- Binding an argument gives alike clusters if the identities of the two nodes are related. -/
theorem inStep_boundOutcome (hid : L.identity (.curried run place) (.curried run' place'))
    {p p' : Option (Filter α (Value α)) × σ} (h : Option.Rel L.filter p.1 p'.1)
    (hw : S p.2 p'.2) :
    L.InStep S (NodeErrors filter filter' s s') (boundOutcome run place filter s p)
      (boundOutcome run' place' filter' s' p') := by
  obtain ⟨k, w⟩ := p
  obtain ⟨k', w'⟩ := p'
  dsimp only at h hw
  cases h with
  | none => exact ⟨.error .tooManyArguments, hw⟩
  | some h => exact ⟨.ok (L.ofFilter hid h), hw⟩

theorem inStep_appliedOutcome (hkept : L.Kept S env env') (name : String)
    {p p' : FilterResult α × σ} (h : L.Result p.1 p'.1) (hw : S p.2 p'.2) :
    L.InStep S (NodeErrors filter filter' s s') (appliedOutcome env name s p)
      (appliedOutcome env' name s' p') := by
  obtain ⟨r, w⟩ := p
  obtain ⟨r', w'⟩ := p'
  dsimp only at h hw
  cases h with
  | value h => exact ⟨.ok h, hw⟩
  | noValue => exact ⟨.ok L.none_none, (hkept.report (.noValue name) w w' hw).2⟩
  | error err => exact ⟨.error (.filterExecution err), hw⟩

/-- Two filtered nodes whose sides have like values use them in step. -/
theorem inStep_used (hkept : L.Kept S env env')
    (hid : L.identity (.curried run place) (.curried run' place')) (curried : Bool)
    {v v' a a' : Value α} {w w' : σ} (hv : L.value v v') (ha : L.value a a') (hw : S w w') :
    L.InStep S (NodeErrors filter filter' s s') (used env run place filter curried s v a w)
      (used env' run' place' filter' curried s' v' a' w') := by
  have hfilter := L.filter? hv
  -- either both values expose a filter or neither does
  rcases hf : v.filter? with - | f <;> rcases hg : v'.filter? with - | g <;> rw [hf, hg] at hfilter
  · rw [used_of_filter?_eq_none hf, used_of_filter?_eq_none hg]
    exact ⟨.error (nodeErrors_refusal hv), hw⟩
  · cases hfilter
  · cases hfilter
  · obtain ⟨hfg⟩ := hfilter
    cases curried with
    | true =>
      have hcurry := hkept.curry hfg ha w w' hw
      rw [used_curried hf, used_curried hg]
      exact inStep_boundOutcome hid hcurry.1 hcurry.2
    | false =>
      have happly := hkept.apply hfg ha w w' hw
      -- filters that are alike have one name, which is what a log would show
      rw [used_applied hf, used_applied hg, ← hkept.name_eq hfg]
      exact inStep_appliedOutcome hkept f.name happly.1 happly.2

/-- Keys of bases that go in step go in step. -/
theorem inStep_access {base base' : Expr} {key key' : Ident} (hkey : key.name = key'.name)
    {w w' : σ} (hbase : L.InStep S E (outcome env run (.base :: place) base w)
      (outcome env' run' (.base :: place') base' w')) :
    L.InStep S E (outcome env run place (.access base key s) w)
      (outcome env' run' place' (.access base' key' s') w') := by
  rw [outcome_access, outcome_access, ← hkey]
  refine hbase.andThen fun v v' w₁ w₁' hv hw₁ => ?_
  exact ⟨.ok (L.get hv key.name), hw₁⟩

/-- Filtered nodes whose sides go in step go in step. -/
theorem inStep_filtered (hkept : L.Kept S env env')
    (hid : L.identity (.curried run place) (.curried run' place')) {argument argument' : Expr}
    {curried : Bool} (hnode : ∀ err err', NodeErrors filter filter' s s' err err' → E err err')
    {w w' : σ} (hfilter : L.InStep S E (outcome env run (.filter :: place) filter w)
      (outcome env' run' (.filter :: place') filter' w'))
    (hargument : ∀ w₁ w₁', S w₁ w₁' → L.InStep S E
      (outcome env run (.argument :: place) argument w₁)
      (outcome env' run' (.argument :: place') argument' w₁')) :
    L.InStep S E (outcome env run place (.filtered filter argument curried s) w)
      (outcome env' run' place' (.filtered filter' argument' curried s') w') := by
  rw [outcome_filtered, outcome_filtered]
  -- the filter side goes in step, then the argument side from the worlds after it, ...
  refine hfilter.andThen fun v v' w₁ w₁' hv hw₁ => ?_
  refine (hargument w₁ w₁' hw₁).andThen fun a a' w₂ w₂' ha hw₂ => ?_
  -- ... and then the node itself.
  exact (inStep_used hkept hid curried hv ha hw₂).mono hnode

/-! ### Whole expressions -/

/-- If the places below two places stand for each other, so do those below a side. -/
theorem identity_below (hid : ∀ q, L.identity (.curried run (q ++ place))
      (.curried run' (q ++ place'))) (b : Branch) (q : List Branch) :
    L.identity (.curried run (q ++ b :: place)) (.curried run' (q ++ b :: place')) := by
  rw [List.append_cons q b place, List.append_cons q b place']
  exact hid _

/-- **Expressions that are the same tree up to spans come to outcomes in step**, in environments
that answer alike, wherever they stand. -/
theorem inStep_outcome (hkept : L.Kept S env env')
    (hid : ∀ q, L.identity (.curried run (q ++ place)) (.curried run' (q ++ place')))
    {e e' : Expr} (htree : e.bare = e'.bare)
    (hnames : ∀ x ∈ e.names, AnsweredAlike S L.value (env.lookup x) (env'.lookup x))
    (htop : e.HasIterator → AnsweredAlike S L.value env.top env'.top) {w w' : σ} (hw : S w w') :
    L.InStep S (ErrorsAtNode e e') (outcome env run place e w)
      (outcome env' run' place' e' w') := by
  -- the two trees are taken apart together; a node is at its own place and its sides below it,
  -- so `hid` goes down with the places
  induction e generalizing e' place place' w w' with
  | identifier x s =>
    cases e' with
    | identifier x' s' =>
      have hx : x.name = x'.name := by
        simpa [Expr.bare, Ident.ofName] using htree
      have hlookup := hnames x.name List.mem_cons_self w w' hw
      rw [outcome_identifier, outcome_identifier, ← hx]
      exact ⟨.ok hlookup.1, hlookup.2⟩
    | _ => simp [Expr.bare] at htree
  | implicitIterator s =>
    cases e' with
    | implicitIterator s' =>
      have hdot := htop trivial w w' hw
      exact ⟨.ok hdot.1, hdot.2⟩
    | _ => simp [Expr.bare] at htree
  | access base key s ih =>
    cases e' with
    | access base' key' s' =>
      simp only [Expr.bare, Ident.ofName, Expr.access.injEq, Ident.mk.injEq, and_true] at htree
      have hbase := ih (identity_below hid .base) htree.1 hnames htop hw
      exact inStep_access htree.2 (hbase.mono fun _ _ h => h.access key key' s s')
    | _ => simp [Expr.bare] at htree
  | filtered filter argument curried s ihf iha =>
    cases e' with
    | filtered filter' argument' curried' s' =>
      simp only [Expr.bare, Expr.filtered.injEq, and_true] at htree
      obtain ⟨hfilter, hargument, rfl⟩ := htree
      refine inStep_filtered hkept (hid []) (fun _ _ h => .root curried curried s s' h) ?_ ?_
      · have hstep := ihf (identity_below hid .filter) hfilter
          (fun x hx => hnames x (List.mem_append_left _ hx)) (fun h => htop (.inl h)) hw
        exact hstep.mono fun _ _ h => h.filterSide curried curried s s'
      · intro w₁ w₁' hw₁
        have hstep := iha (identity_below hid .argument) hargument
          (fun x hx => hnames x (List.mem_append_right _ hx)) (fun h => htop (.inr h)) hw₁
        exact hstep.mono fun _ _ h => h.argumentSide curried curried s s'
    | _ => simp [Expr.bare] at htree

end Node

variable {env env' : Environment (StateM σ) α} {run run' : Nat}

/-! ### Traces in step -/

/-- Events that are alike: the same request, or uses of like filters with like arguments. -/
inductive EventAlike (L : Likeness α) : Event α → Event α → Prop
  | lookup (name) : L.EventAlike (.lookup name) (.lookup name)
  | top : L.EventAlike .top .top
  | curry {f g a b} (filter : L.filter f g) (argument : L.value a b) :
    L.EventAlike (.curry f a) (.curry g b)
  | apply {f g a b} (filter : L.filter f g) (argument : L.value a b) :
    L.EventAlike (.apply f a) (.apply g b)

/-- Worlds that are related, with notes that are alike. -/
def Noted (L : Likeness α) (S : σ → σ → Prop) (p q : σ × List (Event α)) : Prop :=
  S p.1 q.1 ∧ List.Forall₂ L.EventAlike p.2 q.2

theorem answeredAlike_noting {P : β → γ → Prop} {x : StateM σ β} {y : StateM σ γ}
    (h : AnsweredAlike S P x y) {es es' : List (Event α)}
    (hes : List.Forall₂ L.EventAlike es es') :
    AnsweredAlike (L.Noted S) P (noting es x) (noting es' y) := by
  rintro ⟨w, log⟩ ⟨w', log'⟩ ⟨hw, hlog⟩
  obtain ⟨hanswer, hw₁⟩ := h w w' hw
  exact ⟨hanswer, hw₁, List.rel_append hlog hes⟩

/-- Recording keeps what the environments keep. -/
theorem Kept.recorded (h : L.Kept S env env') : L.Kept (L.Noted S) env.recorded env'.recorded where
  name_eq := h.name_eq
  apply hf ha := answeredAlike_noting (h.apply hf ha) (.cons (.apply hf ha) .nil)
  curry hf ha := answeredAlike_noting (h.curry hf ha) (.cons (.curry hf ha) .nil)
  report r := answeredAlike_noting (h.report r) .nil

/-! ### Whole evaluations -/

/-- Two recorded evaluations went alike: their results are alike, with errors that `E` relates, so
are their events, and their worlds are related, unless they have logged errors that differ. -/
structure WentAlike (L : Likeness α) (S : σ → σ → Prop) (E : EvalError → EvalError → Prop)
    (o o' : Except EvalError (Value α) × σ × List (Event α)) : Prop where
  result : L.ResultAlike E o.1 o'.1
  events : List.Forall₂ L.EventAlike o.2.2 o'.2.2
  world : (∀ err, o.1 = .error err → o'.1 = .error err) → S o.2.1 o'.2.1

theorem openedWorld_inStep (hkept : L.Kept S env env') {e e' : Expr} (hprint : e.print = e'.print)
    {w w' : σ} (hw : S w w') : S (openedWorld env e w) (openedWorld env' e' w') := by
  rw [openedWorld, openedWorld, ← hprint]
  have hopened := (hkept.report (.opened e.print) w w' hw).2
  exact (hkept.report .entered _ _ hopened).2

theorem closedWorld_inStep (hkept : L.Kept S env env') {r r' : Except EvalError (Value α)}
    {w w' : σ} (hr : L.ResultAlike E r r') (hsame : ∀ err, r = .error err → r' = .error err)
    (hw : S w w') : S (closedWorld env (r, w)) (closedWorld env' (r', w')) := by
  cases hr with
  | ok value => exact (hkept.report .exited w w' hw).2
  | @error err err' error =>
    obtain rfl := Except.error.inj (hsame err rfl)
    have hfailed := (hkept.report err'.record w w' hw).2
    exact (hkept.report .exited _ _ hfailed).2

/-- Evaluations whose recorded outcomes are in step went alike. -/
theorem InStep.wentAlike (hkept : L.Kept S env env') {o o' : Outcome (σ × List (Event α)) α}
    (h : L.InStep (L.Noted S) E o o') :
    L.WentAlike S E (o.1, closedWorld env.recorded o) (o'.1, closedWorld env'.recorded o') := by
  obtain ⟨r, w, log⟩ := o
  obtain ⟨r', w', log'⟩ := o'
  obtain ⟨hr, hw, hlog⟩ := h
  rw [closedWorld_recorded, closedWorld_recorded]
  exact ⟨hr, hlog, fun hsame => closedWorld_inStep hkept hr hsame hw⟩

/-- **Evaluations of expressions that are the same tree up to spans go alike**, in environments
that answer alike. -/
theorem wentAlike_evaluate (hkept : L.Kept S env env')
    (hid : ∀ place, L.identity (.curried run place) (.curried run' place)) {e e' : Expr}
    (htree : e.bare = e'.bare)
    (hnames : ∀ x ∈ e.names, AnsweredAlike S L.value (env.lookup x) (env'.lookup x))
    (htop : e.HasIterator → AnsweredAlike S L.value env.top env'.top) {w w' : σ} (hw : S w w') :
    L.WentAlike S (BlameAlike e e') (answer (evaluate env.recorded run e) (w, []))
      (answer (evaluate env'.recorded run' e') (w', [])) := by
  -- the log is opened with the text, which shows no spans
  have hprint : e.print = e'.print := by
    rw [← Expr.print_bare e, htree, Expr.print_bare]
  have hopened : L.Noted S (openedWorld env e w, []) (openedWorld env' e' w', []) :=
    ⟨openedWorld_inStep hkept hprint hw, .nil⟩
  -- the recorded environments answer alike as well, so their notes stay alike
  have hstep : L.InStep (L.Noted S) (ErrorsAtNode e e')
      (outcome env.recorded run [] e (openedWorld env e w, []))
      (outcome env'.recorded run' [] e' (openedWorld env' e' w', [])) :=
    inStep_outcome hkept.recorded (fun q => hid (q ++ [])) htree
      (fun x hx => answeredAlike_noting (hnames x hx) (.cons (.lookup x) .nil))
      (fun h => answeredAlike_noting (htop h) (.cons .top .nil)) hopened
  rw [answer_evaluate, answer_evaluate, openedWorld_recorded, openedWorld_recorded]
  exact (hstep.mono fun _ _ h => h.blameAlike htree).wentAlike hkept

/-- Evaluations of one expression go alike, with equal errors. -/
theorem wentAlike_evaluate_same (hkept : L.Kept S env env')
    (hid : ∀ place, L.identity (.curried run place) (.curried run' place)) {e : Expr}
    (hnames : ∀ x ∈ e.names, AnsweredAlike S L.value (env.lookup x) (env'.lookup x))
    (htop : e.HasIterator → AnsweredAlike S L.value env.top env'.top) {w w' : σ} (hw : S w w') :
    L.WentAlike S Eq (answer (evaluate env.recorded run e) (w, []))
      (answer (evaluate env'.recorded run' e) (w', [])) := by
  obtain ⟨hresult, hevents, hworld⟩ := wentAlike_evaluate hkept hid (Eq.refl e.bare) hnames htop hw
  exact ⟨hresult.mono fun _ _ => BlameAlike.eq, hevents, hworld⟩

/-! ### Equality -/

/-- Environments with the same filters and the same log keep equality. -/
theorem equality_kept (happly : env.apply = env'.apply) (hcurry : env.curry = env'.curry)
    (hreport : env.report = env'.report) : (equality : Likeness α).Kept Eq env env' where
  name_eq h := congrArg Filter.name h
  apply {f g a b} hf ha w w' hw := by
    -- like filters and like values are equal here, so both environments are asked the same
    cases hf
    cases ha
    cases hw
    rw [← happly]
    refine ⟨?_, rfl⟩
    rcases (answer (env.apply f a) w).1 with err | - | v
    · exact .error err
    · exact .noValue
    · exact .value rfl
  curry {f g a b} hf ha w w' hw := by
    cases hf
    cases ha
    cases hw
    rw [← hcurry]
    refine ⟨?_, rfl⟩
    rcases (answer (env.curry f a) w).1 with - | g
    · exact .none
    · exact .some rfl
  report r w w' hw := by
    cases hw
    rw [← hreport]
    exact ⟨trivial, rfl⟩

theorem EventAlike.eq {ev ev' : Event α} (h : (equality : Likeness α).EventAlike ev ev') :
    ev = ev' := by
  cases h with
  | lookup name => rfl
  | top => rfl
  | curry filter argument => cases filter; cases argument; rfl
  | apply filter argument => cases filter; cases argument; rfl

/-- Evaluations that went alike up to equality have the same events. -/
theorem WentAlike.events_eq {o o' : Except EvalError (Value α) × σ × List (Event α)}
    (h : (equality : Likeness α).WentAlike S E o o') : o.2.2 = o'.2.2 :=
  List.forall₂_eq_eq_eq ▸ h.events.imp fun _ _ => EventAlike.eq

/-- Evaluations that went alike up to equality have equal results and equal events, and leave
worlds that are related. -/
theorem WentAlike.of_equality {o o' : Except EvalError (Value α) × σ × List (Event α)}
    (h : (equality : Likeness α).WentAlike S Eq o o') :
    o.1 = o'.1 ∧ o.2.2 = o'.2.2 ∧ S o.2.1 o'.2.1 := by
  -- equal results leave no error that could have been logged differently
  have hresult : o.1 = o'.1 := by
    have hresult := h.result
    generalize o.1 = r at hresult ⊢
    generalize o'.1 = r' at hresult ⊢
    cases hresult with
    | ok value => exact congrArg Except.ok value
    | error error => exact congrArg Except.error error
  exact ⟨hresult, h.events_eq, h.world fun err herr => hresult ▸ herr⟩

/-- Evaluations that went alike up to equality are equal, with the worlds that they leave. -/
theorem WentAlike.eq {o o' : Except EvalError (Value α) × σ × List (Event α)}
    (h : (equality : Likeness α).WentAlike Eq Eq o o') : o = o' := by
  obtain ⟨hresult, hevents, hworld⟩ := h.of_equality
  exact Prod.ext hresult (Prod.ext hworld hevents)

end Likeness

/-! ### The clusters of two evaluations -/

/-- Which clusters stand for each other when an expression is evaluated once more: those made at
one place.  Clusters of the host and of any other evaluation stand for themselves. -/
inductive Identity.Rerun (run run' : Nat) : Identity → Identity → Prop
  | host (serial) : Rerun run run' (.host serial) (.host serial)
  | other {r} (place) (hrun : r ≠ run ∧ r ≠ run') :
    Rerun run run' (.curried r place) (.curried r place)
  | made (place) : Rerun run run' (.curried run place) (.curried run' place)

/-- No cluster stands for two, and none has two to stand for it. -/
theorem Identity.rerun_biUnique (run run' : Nat) : Relator.BiUnique (Rerun run run') := by
  constructor
  · -- to the left: a made cluster is of `run'`, and the others of that number are left out
    intro i j k hij hkj
    cases hij with
    | host serial => cases hkj; rfl
    | other place hrun =>
      cases hkj with
      | other => rfl
      | made => exact absurd rfl hrun.2
    | made place =>
      cases hkj with
      | other _ hrun => exact absurd rfl hrun.2
      | made => rfl
  · -- to the right, with `run` in place of `run'`
    intro i j k hij hik
    cases hij with
    | host serial => cases hik; rfl
    | other place hrun =>
      cases hik with
      | other => rfl
      | made => exact absurd rfl hrun.1
    | made place =>
      cases hik with
      | other _ hrun => exact absurd rfl hrun.1
      | made => rfl

/-- Likeness up to the identities of the clusters that two evaluations make. -/
def Likeness.rerun (run run' : Nat) (A : α → α → Prop) : Likeness α :=
  .upTo (Identity.Rerun run run') A

end TagExpr
