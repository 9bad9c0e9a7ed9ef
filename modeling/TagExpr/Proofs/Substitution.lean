/-
TagExpr/Proofs/Substitution.lean

Naming the value of a part of an expression.

Let `C` be what surrounds a part `s` of the expression `C.fill s`, and let `s` have the value
`v` in the context `c`.  With a new name `x` for the part, the expression comes to the same:

    C.fill s in c  ~  C.fill x in c.push {x: v}.

The two outcomes go in step, as InStep.lean has it, and where they are errors the text of the
filter differs at most by the part that is named.  If `v` is the very value that the part has
within the whole, the outcomes are equal.  If the part was evaluated on its own before, they
are alike up to the identities of the clusters that the evaluations make: what the whole makes
within the part stands for what the part makes alone, and the rest for what the named
expression makes at the same places.

A call is the case of a chain of curried arguments, so it may be cut after any of them.
-/
import Mathlib.Data.List.Induction
import TagExpr.Proofs.CallChain
import TagExpr.Proofs.InStep

namespace TagExpr

variable {α : Type}

/-! ### Expressions with a hole -/

/-- An expression without one of its parts. -/
inductive Surrounding where
  | hole
  | access (base : Surrounding) (key : Ident) (span : Span)
  | filterSide (filter : Surrounding) (argument : Expr) (curried : Bool) (span : Span)
  | argumentSide (filter : Expr) (argument : Surrounding) (curried : Bool) (span : Span)

namespace Surrounding

/-- The expression with its part; all other nodes keep their spans. -/
def fill : Surrounding → Expr → Expr
  | hole, part => part
  | access base key span, part => .access (base.fill part) key span
  | filterSide filter argument curried span, part =>
    .filtered (filter.fill part) argument curried span
  | argumentSide filter argument curried span, part =>
    .filtered filter (argument.fill part) curried span

/-- Where the part stands in an expression that stands at `place`. -/
def partPlace : Surrounding → List Branch → List Branch
  | hole, place => place
  | access base _ _, place => base.partPlace (.base :: place)
  | filterSide filter _ _ _, place => filter.partPlace (.filter :: place)
  | argumentSide _ argument _ _, place => argument.partPlace (.argument :: place)

theorem suffix_partPlace (C : Surrounding) (place : List Branch) :
    place <:+ C.partPlace place := by
  induction C generalizing place with
  | hole => exact List.suffix_refl place
  | access base _ _ ih => exact (List.suffix_cons _ place).trans (ih _)
  | filterSide filter _ _ _ ih => exact (List.suffix_cons _ place).trans (ih _)
  | argumentSide _ argument _ _ ih => exact (List.suffix_cons _ place).trans (ih _)

/-- A node above the part does not stand below it. -/
theorem not_partPlace_suffix (C : Surrounding) (b : Branch) (place : List Branch) :
    ¬ C.partPlace (b :: place) <:+ place := by
  intro h
  have := ((C.suffix_partPlace (b :: place)).trans h).length_le
  rw [List.length_cons] at this
  omega

/-- Nor does a node beside it. -/
theorem not_partPlace_suffix_append (C : Surrounding) {b d : Branch} (hbd : b ≠ d)
    (place q : List Branch) : ¬ C.partPlace (b :: place) <:+ q ++ d :: place := by
  intro h
  have hb := (C.suffix_partPlace (b :: place)).trans h
  have hd : d :: place <:+ q ++ d :: place := List.suffix_append q (d :: place)
  have := (List.suffix_of_suffix_length_le hb hd (by simp)).eq_of_length (by simp)
  simp only [List.cons.injEq] at this
  exact hbd this.1

end Surrounding

/-- The second expression is the first with a part replaced, or the same. -/
inductive Expr.Replaced (s t : Expr) : Expr → Expr → Prop
  | same (e) : Replaced s t e e
  | part (C : Surrounding) : Replaced s t (C.fill s) (C.fill t)

/-! ### Parts that come to like outcomes -/

/-- Errors of one kind, with one span, one found kind and one filter error; the texts of their
filters are those of expressions that `T` relates. -/
def ErrorsAgree (T : Expr → Expr → Prop) (err err' : EvalError) : Prop :=
  ∃ filter filter' s, T filter filter' ∧ NodeErrors filter filter' s s err err'

/-- Outcomes that are alike: two values that are alike, or two errors that differ at most in the
text of a filter, which `T` relates. -/
def Likeness.Agree (L : Likeness α) (T : Expr → Expr → Prop) (o o' : Outcome Unit α) : Prop :=
  L.InStep Eq (ErrorsAgree T) o o'

section Fill

variable {L : Likeness α} {host : Host (StateM Unit) α} {c c' : ContextStack α}
  {report : Record → StateM Unit Unit} {run run' : Nat} {s t : Expr}

/-- **Replacing a part by one that comes to a like outcome changes nothing**, in contexts that
agree on the names around it. -/
theorem Likeness.agree_fill
    (hkept : L.Kept Eq (.of c.toContext host report) (.of c'.toContext host report))
    {C : Surrounding} {place : List Branch}
    (hpart : L.Agree (Expr.Replaced s t)
      (outcome (.of c.toContext host report) run (C.partPlace place) s ())
      (outcome (.of c'.toContext host report) run' (C.partPlace place) t ()))
    (hnames : ∀ x ∈ (C.fill s).names, L.value (c.lookup x) (c'.lookup x))
    (hiterator : ¬ (C.fill t).HasIterator)
    (hid : ∀ q, ¬ C.partPlace place <:+ q → L.identity (.curried run q) (.curried run' q)) :
    L.Agree (Expr.Replaced s t) (outcome (.of c.toContext host report) run place (C.fill s) ())
      (outcome (.of c'.toContext host report) run' place (C.fill t) ()) := by
  -- a side beside the way to the part is the same expression, and goes in step with itself
  have hside {e : Expr} {place : List Branch}
      (hnames : ∀ x ∈ e.names, L.value (c.lookup x) (c'.lookup x)) (hiterator : ¬ e.HasIterator)
      (hid : ∀ q, L.identity (.curried run (q ++ place)) (.curried run' (q ++ place))) :
      L.Agree (Expr.Replaced s t) (outcome (.of c.toContext host report) run place e ())
        (outcome (.of c'.toContext host report) run' place e ()) := by
    refine (inStep_outcome hkept hid rfl (fun x hx => .pure (hnames x hx))
      (fun h => absurd h hiterator) rfl).mono fun err err' herr => ?_
    obtain ⟨filter, span, herr⟩ := herr.of_self
    exact ⟨filter, filter, span, .same filter, herr⟩
  induction C generalizing place with
  | hole => exact hpart
  | access base key span ih => exact inStep_access rfl (ih hpart hnames hiterator hid)
  | filterSide filter argument curried span ih =>
    refine inStep_filtered hkept (hid _ (filter.not_partPlace_suffix .filter place))
      (fun _ _ h => ⟨_, _, span, .part filter, h⟩) ?_ fun _ _ _ => ?_
    · exact ih hpart (fun x hx => hnames x (List.mem_append_left _ hx))
        (fun h => hiterator (.inl h)) hid
    · exact hside (fun x hx => hnames x (List.mem_append_right _ hx))
        (fun h => hiterator (.inr h))
        fun q => hid _ (filter.not_partPlace_suffix_append (by decide) place q)
  | argumentSide filter argument curried span ih =>
    refine inStep_filtered hkept (hid _ (argument.not_partPlace_suffix .argument place))
      (fun _ _ h => ⟨_, _, span, .same filter, h⟩) ?_ fun _ _ _ => ?_
    · exact hside (fun x hx => hnames x (List.mem_append_left _ hx))
        (fun h => hiterator (.inl h))
        fun q => hid _ (argument.not_partPlace_suffix_append (by decide) place q)
    · exact ih hpart (fun x hx => hnames x (List.mem_append_right _ hx))
        (fun h => hiterator (.inr h)) hid

end Fill

/-! ### A name for the value of a part -/

/-- The context in which `name` stands for `v`. -/
def ContextStack.bind (c : ContextStack α) (name : String) (v : Value α) : ContextStack α :=
  c.push (.ofEntries [(name, v)])

theorem ContextStack.get_ofEntries_singleton (name other : String) (v : Value α) :
    (Value.ofEntries [(name, v)]).get other = if other = name then v else .none := by
  simp only [Value.get, Value.ofEntries, Entries.ofList, List.foldl_cons, List.foldl_nil,
    Entries.insert, Entries.lookup]
  split <;> rfl

/-- A new name has its value, also where this is no value. -/
theorem ContextStack.lookup_bind_self {c : ContextStack α} {name : String}
    (h : c.lookup name = .none) (v : Value α) : (c.bind name v).lookup name = v := by
  rw [bind, lookup_push, get_ofEntries_singleton, if_pos rfl]
  split
  · next hv => rw [h, Value.isNone_iff.mp hv]
  · rfl

theorem ContextStack.lookup_bind_of_ne (c : ContextStack α) {name other : String}
    (h : other ≠ name) (v : Value α) : (c.bind name v).lookup other = c.lookup other := by
  rw [bind, lookup_push_of_get_eq_none]
  rw [get_ofEntries_singleton, if_neg h]

section Name

variable {host : Host (StateM Unit) α} {report : Record → StateM Unit Unit} {c : ContextStack α}
  {C : Surrounding} {s : Expr} {x : Ident} {span : Span} {v : Value α}

/-- A log that nothing is read from does not change an evaluation. -/
theorem answer_evaluate_unit (env : Environment (StateM Unit) α) (run : Nat) (e : Expr) :
    answer (evaluate env run e) () = outcome env run [] e () := by
  rw [answer_evaluate]

/-- A part whose value is like the one its new name stands for may be replaced by the name. -/
theorem Likeness.agree_fill_name {L : Likeness α}
    (hkept : L.Kept Eq (.of c.toContext host report) (.of (c.bind x.name v).toContext host report))
    (hx : x.name ∉ (C.fill s).names) (hnone : c.lookup x.name = .none)
    (hiterator : ¬ (C.fill (.identifier x span)).HasIterator)
    (hscopes : ∀ u ∈ c.scopes, L.value u u) {run run' : Nat} {u : Value α}
    (hpart : outcome (.of c.toContext host report) run (C.partPlace []) s () = (.ok u, ()))
    (hu : L.value u v)
    (hid : ∀ q, ¬ C.partPlace [] <:+ q → L.identity (.curried run q) (.curried run' q)) :
    L.Agree (Expr.Replaced s (.identifier x span))
      (answer (evaluate (.of c.toContext host report) run (C.fill s)) ())
      (answer (evaluate (.of (c.bind x.name v).toContext host report) run'
        (C.fill (.identifier x span))) ()) := by
  rw [answer_evaluate_unit, answer_evaluate_unit]
  refine agree_fill hkept ?_ (fun y hy => ?_) hiterator hid
  · rw [hpart, outcome_identifier]
    refine ⟨.ok ?_, rfl⟩
    show L.value u ((c.bind x.name v).lookup x.name)
    rwa [ContextStack.lookup_bind_self hnone]
  · -- any other name goes through the new scope
    rw [c.lookup_bind_of_ne (ne_of_mem_of_not_mem hy hx)]
    exact value_lookup (List.forall₂_same.mpr hscopes) y

end Name

/-! ### The clusters of three evaluations -/

/-- Which clusters stand for each other when a part is evaluated `alone`, in the `whole`
expression, and replaced by its name in the `named` one.  Clusters of the host and of any other
evaluation stand for themselves. -/
inductive Identity.Renamed (alone whole named : Nat) (part : List Branch) :
    Identity → Identity → Prop
  | host (serial) : Renamed alone whole named part (.host serial) (.host serial)
  | other {run} (place) (hrun : run ∉ [alone, whole, named]) :
    Renamed alone whole named part (.curried run place) (.curried run place)
  | inside {p q} (hp : p = q ++ part) :
    Renamed alone whole named part (.curried whole p) (.curried alone q)
  | outside {p} (hp : ¬ part <:+ p) :
    Renamed alone whole named part (.curried whole p) (.curried named p)

/-- The part and the named expression are evaluated in different runs, so no cluster stands for
two, and none has two to stand for it. -/
theorem Identity.renamed_biUnique {alone whole named : Nat} (h : alone ≠ named)
    (part : List Branch) : Relator.BiUnique (Renamed alone whole named part) := by
  constructor
  · -- what stands for two would be of the part alone and of the named expression
    intro i j k hij hkj
    cases hij with
    | host => cases hkj; rfl
    | other place hrun =>
      cases hkj with
      | other => rfl
      | inside => simp at hrun
      | outside => simp at hrun
    | inside hp =>
      cases hkj with
      | other _ hrun => simp at hrun
      | inside hp' => rw [hp, hp']
      | outside => exact absurd rfl h
    | outside hp =>
      cases hkj with
      | other _ hrun => simp at hrun
      | inside => exact absurd rfl h
      | outside => rfl
  · -- what has two to stand for it would be both below the part and not
    intro i j k hij hik
    cases hij with
    | host => cases hik; rfl
    | other place hrun =>
      cases hik with
      | other => rfl
      | inside => simp at hrun
      | outside => simp at hrun
    | inside hp =>
      cases hik with
      | other _ hrun => simp at hrun
      | inside hp' => rw [List.append_cancel_right (hp.symm.trans hp')]
      | outside hp' => exact absurd ⟨_, hp.symm⟩ hp'
    | outside hp =>
      cases hik with
      | other _ hrun => simp at hrun
      | inside hp' => exact absurd ⟨_, hp'.symm⟩ hp
      | outside => rfl

/-! ### Substitution -/

section Substitution

variable {host : Host (StateM Unit) α} {report : Record → StateM Unit Unit} {c : ContextStack α}
  {C : Surrounding} {s : Expr} {x : Ident} {span : Span} {v : Value α}

/-- With the value that the part has within the whole, the outcomes are equal. -/
theorem evaluate_fill_within (hx : x.name ∉ (C.fill s).names)
    (hnone : c.lookup x.name = .none)
    (hiterator : ¬ (C.fill (.identifier x span)).HasIterator) {run : Nat}
    (hpart : outcome (.of c.toContext host report) run (C.partPlace []) s () = (.ok v, ())) :
    Likeness.equality.Agree (Expr.Replaced s (.identifier x span))
      (answer (evaluate (.of c.toContext host report) run (C.fill s)) ())
      (answer (evaluate (.of (c.bind x.name v).toContext host report) run
        (C.fill (.identifier x span))) ()) :=
  Likeness.agree_fill_name (Likeness.equality_kept rfl rfl rfl) hx hnone hiterator
    (fun _ _ => rfl) hpart rfl fun _ _ => rfl

/-- With the value that the part has alone, they are alike up to identities. -/
theorem evaluate_fill_alone (hx : x.name ∉ (C.fill s).names)
    (hnone : c.lookup x.name = .none)
    (hiterator : ¬ (C.fill (.identifier x span)).HasIterator) {alone whole named : Nat}
    {R : Identity → Identity → Prop} {A : α → α → Prop}
    (hR : R = Identity.Renamed alone whole named (C.partPlace []))
    (halone : answer (evaluate (.of c.toContext host report) alone s) () = (.ok v, ()))
    (hhost : host.Respects R A) (hscopes : ∀ u ∈ c.scopes, Value.Alike R A u u) :
    (Likeness.upTo R A).Agree (Expr.Replaced s (.identifier x span))
      (answer (evaluate (.of c.toContext host report) whole (C.fill s)) ())
      (answer (evaluate (.of (c.bind x.name v).toContext host report) named
        (C.fill (.identifier x span))) ()) := by
  subst hR
  rw [answer_evaluate_unit] at halone
  -- within the whole, the part has a value like the one it has alone
  have hlike := List.forall₂_same.mpr hscopes
  have hwithin : (Likeness.upTo _ A).InStep Eq (ErrorsAtNode s s)
      (outcome (.of c.toContext host report) whole (C.partPlace []) s ())
      (outcome (.of c.toContext host report) alone [] s ()) :=
    Likeness.inStep_outcome (hhost.kept ..) (fun q => .inside (by rw [List.append_nil])) rfl
      (fun y _ => .pure (Likeness.value_lookup hlike y))
      (fun _ => .pure (Likeness.value_top hlike)) rfl
  rw [halone] at hwithin
  obtain ⟨u, _, hpart, hu, -⟩ := hwithin.exists_ok
  exact Likeness.agree_fill_name (hhost.kept ..) hx hnone hiterator hscopes hpart hu
    fun _ hq => .outside hq

end Substitution

/-- **Naming the value of a part changes nothing.**  Let the part `s` of an expression have the
value `v`, and let `x` be a name that the expression does not look up and that means nothing.
The expression with the name in place of the part, where the name is bound to `v`, comes to the
outcome of the expression as it was.

If `v` is the value of the part within the whole, the two have equal values, whatever the
filters do.  If `v` is the value of the part alone, in an evaluation of its own, they have
values that are alike up to the identities of clusters made in these evaluations; here the
filters are not to look at the identities, and the scopes are to be like themselves. -/
theorem evaluate_fill_name {α : Type} (host : Host (StateM Unit) α)
    (report : Record → StateM Unit Unit) (c : ContextStack α) (C : Surrounding) (s : Expr)
    (x : Ident) (span : Span) (v : Value α) (hx : x.name ∉ (C.fill s).names)
    (hnone : c.lookup x.name = .none)
    (hiterator : ¬ (C.fill (.identifier x span)).HasIterator) :
    (∀ run, outcome (.of c.toContext host report) run (C.partPlace []) s () = (.ok v, ()) →
      Likeness.equality.Agree (Expr.Replaced s (.identifier x span))
        (answer (evaluate (.of c.toContext host report) run (C.fill s)) ())
        (answer (evaluate (.of (c.bind x.name v).toContext host report) run
          (C.fill (.identifier x span))) ())) ∧
    ∀ (alone whole named : Nat) (R : Identity → Identity → Prop) (A : α → α → Prop),
      R = Identity.Renamed alone whole named (C.partPlace []) →
      answer (evaluate (.of c.toContext host report) alone s) () = (.ok v, ()) →
      host.Respects R A → (∀ u ∈ c.scopes, Value.Alike R A u u) →
      (Likeness.upTo R A).Agree (Expr.Replaced s (.identifier x span))
        (answer (evaluate (.of c.toContext host report) whole (C.fill s)) ())
        (answer (evaluate (.of (c.bind x.name v).toContext host report) named
          (C.fill (.identifier x span))) ()) := by
  constructor
  · -- the value within the whole, then the value alone
    intro run hpart
    exact evaluate_fill_within hx hnone hiterator hpart
  · intro alone whole named R A hR halone hhost hscopes
    exact evaluate_fill_alone hx hnone hiterator hR halone hhost hscopes

/-- A host whose filters tell whether their two arguments are equal. -/
def comparingHost : Host (StateM Unit) Unit where
  run _ vs :=
    match vs with
    | [v, w] => pure (.ok (some (.bool (v.equal w))))
    | _ => pure (.ok none)
  apply _ _ := pure (.ok none)
  curry _ _ := pure none

/-- To compare clusters is not to look at their identities. -/
theorem comparingHost_respects {R : Identity → Identity → Prop} (hR : Relator.BiUnique R) :
    comparingHost.Respects R fun _ _ => True where
  run _ h := by
    -- only two arguments are compared; any other number has no value on either side
    cases h with
    | nil => exact .noValue
    | cons hv h =>
      cases h with
      | nil => exact .noValue
      | cons hw h =>
        cases h with
        | nil =>
          simp only [comparingHost, Value.equal_eq_of_alike hR hv hw]
          exact .value (.scalar _)
        | cons _ _ => exact .noValue
  apply _ _ := .noValue
  curry _ _ := .none

/-- `same(same(a, ...), same(a, ...))` with `g` for its first argument.  The two clusters differ,
also if the first one was made alone. -/
theorem evaluate_fill_name_same :
    let name (s : String) : Expr := .identifierAt s .dummy
    let same : Value Unit := .ofFilter (.host 0) (.fixed (.new "same" 2 ()))
    let c : ContextStack Unit := .ofValue (.mapping [("a", .int 1), ("same", same)])
    let s : Expr := .filtered (name "same") (name "a") true .dummy
    let C : Surrounding :=
      .filterSide (.argumentSide (name "same") .hole true .dummy) s false .dummy
    let v (run : Nat) (place : List Branch) : Value Unit :=
      .ofFilter (.curried run place) (.fixed ⟨"same", 2, [.int 1], ()⟩)
    let plain (c : ContextStack Unit) : Environment (StateM Unit) Unit :=
      .of c.toContext comparingHost fun _ => pure ()
    let g : Expr := .identifier (.ofName "g") .dummy
    let R := Identity.Renamed 0 1 2 [.argument, .filter]
    "g" ∉ (C.fill s).names ∧ c.lookup "g" = .none ∧ ¬ (C.fill g).HasIterator ∧
    outcome (plain c) 1 (C.partPlace []) s () = (.ok (v 1 [.argument, .filter]), ()) ∧
    answer (evaluate (plain c) 0 s) () = (.ok (v 0 []), ()) ∧
    comparingHost.Respects R (fun _ _ => True) ∧
    (∀ u ∈ c.scopes, Value.Alike R (fun _ _ => True) u u) ∧
    answer (evaluate (plain c) 1 (C.fill s)) () = (.ok (.bool false), ()) ∧
    Likeness.equality.Agree (Expr.Replaced s g) (answer (evaluate (plain c) 1 (C.fill s)) ())
      (answer (evaluate (plain (c.bind "g" (v 1 [.argument, .filter]))) 1 (C.fill g)) ()) ∧
    (Likeness.upTo R fun _ _ => True).Agree (Expr.Replaced s g)
      (answer (evaluate (plain c) 1 (C.fill s)) ())
      (answer (evaluate (plain (c.bind "g" (v 0 []))) 2 (C.fill g)) ()) := by
  intro name same c s C v plain g R
  have hx : "g" ∉ (C.fill s).names := by decide
  have hnone : c.lookup "g" = .none := rfl
  have hiterator : ¬ (C.fill g).HasIterator := by
    simp [C, g, s, name, Surrounding.fill, Expr.HasIterator, Expr.identifierAt]
  have hwithin : outcome (plain c) 1 (C.partPlace []) s ()
      = (.ok (v 1 [.argument, .filter]), ()) := rfl
  have halone : answer (evaluate (plain c) 0 s) () = (.ok (v 0 []), ()) := rfl
  -- the part alone and the named expression are evaluated with different numbers
  have hhost : comparingHost.Respects R fun _ _ => True :=
    comparingHost_respects (Identity.renamed_biUnique (by decide) _)
  have hscopes : ∀ u ∈ c.scopes, Value.Alike R (fun _ _ => True) u u := by
    intro u hu
    obtain rfl := List.mem_singleton.mp hu
    have hsame : Value.Alike R (fun _ _ => True) same same :=
      Value.alike_ofFilter_new (.host 0) "same" 2 trivial
    exact .mapping (.cons (.mk "a" (.scalar _)) (.cons (.mk "same" hsame) .nil))
  refine ⟨hx, hnone, hiterator, hwithin, halone, hhost, hscopes, rfl, ?_, ?_⟩
  · exact (evaluate_fill_name comparingHost (fun _ => pure ()) c C s (.ofName "g") .dummy
      (v 1 [.argument, .filter]) hx hnone hiterator).1 1 hwithin
  · exact (evaluate_fill_name comparingHost (fun _ => pure ()) c C s (.ofName "g") .dummy
      (v 0 []) hx hnone hiterator).2 0 1 2 R _ rfl halone hhost hscopes

/-! ### Calls cut in two -/

/-- One more argument takes the head one step further down. -/
theorem headPlace_filter (place : List Branch) (k : Nat) :
    headPlace (.filter :: place) k = headPlace place (k + 1) := by
  rw [headPlace, headPlace, List.replicate_succ', List.append_assoc, List.singleton_append]

/-- A chain of arguments is the surrounding of its head.  It has the same spans around any two
heads of one span. -/
theorem exists_fill_eq_chain (args : List Expr) (span : Span) :
    ∃ C : Surrounding, (∀ place, C.partPlace place = headPlace place args.length) ∧
      ∃ outer, ∀ e, e.span = span → Expr.chain e args = C.fill e ∧ (C.fill e).span = outer := by
  -- the surrounding grows outwards, by the last argument
  induction args using List.reverseRecOn with
  | nil => exact ⟨.hole, fun _ => rfl, span, fun e he => ⟨rfl, he⟩⟩
  | append_singleton args a ih =>
    obtain ⟨C, hplace, outer, hC⟩ := ih
    refine ⟨.filterSide C a true (outer.merge a.span), fun place => ?_, outer.merge a.span,
      fun e he => ⟨?_, rfl⟩⟩
    · rw [Surrounding.partPlace, hplace, headPlace_filter, List.length_append,
        List.length_singleton]
    · obtain ⟨hchain, hspan⟩ := hC e he
      rw [Expr.chain_append, hchain, Expr.chain_cons, Expr.chain_nil, Expr.mkFiltered, hspan,
        Surrounding.fill]

/-- A call is the surrounding of the chain of its first arguments. -/
theorem exists_fill_eq_call (head : Expr) (as : List Expr) {bs : List Expr} (hbs : bs ≠ []) :
    ∃ C : Surrounding, C.partPlace [] = headPlace [] bs.length ∧
      head.call (as ++ bs) = some (C.fill (head.chain as)) ∧
      ∀ e, e.span = (head.chain as).span → e.call bs = some (C.fill e) := by
  obtain ⟨init, b, rfl⟩ := (List.eq_nil_or_concat' bs).resolve_left hbs
  obtain ⟨C, hplace, outer, hC⟩ := exists_fill_eq_chain init (head.chain as).span
  have hcall (e : Expr) (he : e.span = (head.chain as).span) :
      e.call (init ++ [b])
        = some ((Surrounding.filterSide C b false (outer.merge b.span)).fill e) := by
    obtain ⟨hchain, hspan⟩ := hC e he
    rw [Expr.call_concat, hchain, Expr.mkFiltered, hspan, Surrounding.fill]
  refine ⟨.filterSide C b false (outer.merge b.span), ?_, ?_, hcall⟩
  · rw [Surrounding.partPlace, hplace, headPlace_filter, List.length_append, List.length_singleton]
  · rw [← List.append_assoc, Expr.call_concat, Expr.chain_append, ← Expr.call_concat]
    exact hcall _ rfl

/-- **Currying step by step agrees with one call**, for any number of arguments and any way to
cut them in two: a name for `head(as, ...)`, called with `bs`, comes to what `head(as, bs)`
comes to. -/
theorem evaluate_call_append {host : Host (StateM Unit) α} {report : Record → StateM Unit Unit}
    {c : ContextStack α} {head : Expr} {as bs : List Expr} (hbs : bs ≠ []) {x : Ident}
    {e e' : Expr} (he : head.call (as ++ bs) = some e)
    (he' : (Expr.identifier x (head.chain as).span).call bs = some e') (hx : x.name ∉ e.names)
    (hnone : c.lookup x.name = .none) (hiterator : ¬ e'.HasIterator)
    {alone whole named : Nat} {R : Identity → Identity → Prop} {A : α → α → Prop}
    (hR : R = Identity.Renamed alone whole named (headPlace [] bs.length)) {v : Value α}
    (halone : answer (evaluate (.of c.toContext host report) alone (head.chain as)) ()
      = (.ok v, ()))
    (hhost : host.Respects R A) (hscopes : ∀ u ∈ c.scopes, Value.Alike R A u u) :
    (Likeness.upTo R A).Agree
      (Expr.Replaced (head.chain as) (.identifier x (head.chain as).span))
      (answer (evaluate (.of c.toContext host report) whole e) ())
      (answer (evaluate (.of (c.bind x.name v).toContext host report) named e') ()) := by
  obtain ⟨C, hplace, hcall, hname⟩ := exists_fill_eq_call head as hbs
  rw [hcall] at he
  rw [hname (.identifier x (head.chain as).span) rfl] at he'
  cases he
  cases he'
  rw [← hplace] at hR
  exact evaluate_fill_alone hx hnone hiterator hR halone hhost hscopes

end TagExpr
