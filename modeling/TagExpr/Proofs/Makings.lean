/-
TagExpr/Proofs/Makings.lean

The clusters that an evaluation makes.

Each curried node that is reached and binds its argument makes one cluster.  At this moment
there are the world, the values of the two sides of the node, and the values of the filter sides
of the nodes around it whose argument sides are not finished.  The new cluster is in none of
them: its identity is that of the node, and what the evaluation has made so far it has made at
other nodes.  So

    the makings of an evaluation   =   the values of the curried nodes that it reaches,
                                       up to one that fails

and each of them is new when it is made.
-/
import TagExpr.Proofs.Holdings
import TagExpr.Proofs.Reading
import TagExpr.Proofs.Trace

namespace TagExpr

variable {σ α : Type}

/-! ### Makings -/

/-- An evaluation binds an argument and makes a cluster for the filter that it is given. -/
structure Making (σ α : Type) where
  identity : Identity
  filter : Filter α (Value α)
  /-- What the evaluation has at hand: the values of the two sides of the node, and those of the
  filter sides of nodes around it. -/
  held : List (Value α)
  world : σ

namespace Making

/-- The cluster that is made. -/
def value (m : Making σ α) : Value α :=
  .ofFilter m.identity m.filter

/-- A cluster exists when this one is made: in the world, in a value at hand, or in what the new
filter has bound. -/
def Meets (m : Making σ α) (H : Holdings σ α) (i : Identity) : Prop :=
  H.world m.world i ∨ (∃ v ∈ m.held, v.Holds H.action i) ∨ m.filter.Holds H.action i

end Making

section Makings

variable (env : Environment (StateM σ) α) (run : Nat)

/-- What a filtered node makes from the values of its sides, in the world after them: a cluster
if it is curried and the filter binds the argument. -/
def binding (held : List (Value α)) (place : List Branch) (curried : Bool) (v a : Value α)
    (w : σ) : List (Making σ α) :=
  match curried, v.filter? with
  | true, some f =>
    match answer (env.curry f a) w with
    | (none, _) => []
    | (some g, w') => [⟨.curried run place, g, a :: v :: held, w'⟩]
  | _, _ => []

/-- The clusters that an evaluation makes, in order, while the values `held` are at hand. -/
def makings (held : List (Value α)) (place : List Branch) (e : Expr) (w : σ) :
    List (Making σ α) :=
  match e with
  | .identifier _ _ => []
  | .implicitIterator _ => []
  | .access base _ _ => makings held (.base :: place) base w
  | .filtered filter argument curried _ =>
    makings held (.filter :: place) filter w ++
      match outcome env run (.filter :: place) filter w with
      | (.error _, _) => []
      | (.ok v, w₁) =>
        makings (v :: held) (.argument :: place) argument w₁ ++
          match outcome env run (.argument :: place) argument w₁ with
          | (.error _, _) => []
          | (.ok a, w₂) => binding env run held place curried v a w₂

/-- What a visited node comes to if it is a curried one. -/
def boundAt? (n : Visit σ) : Option (Value α × σ) :=
  if n.node.isCurried then
    match outcome env run n.place n.node n.world with
    | (.ok v, w) => some (v, w)
    | (.error _, _) => none
  else none

end Makings

variable {env : Environment (StateM σ) α} {run : Nat} {held : List (Value α)}
  {place : List Branch} {w : σ} {m : Making σ α}

theorem mem_binding_iff {curried : Bool} {v a : Value α} :
    m ∈ binding env run held place curried v a w ↔ curried = true ∧ ∃ f g w', v.filter? = some f ∧
      answer (env.curry f a) w = (some g, w') ∧
      m = ⟨.curried run place, g, a :: v :: held, w'⟩ := by
  cases curried with
  | false => simp [binding]
  | true =>
    rcases hf : v.filter? with - | f
    · simp [binding, hf]
    · rcases hg : answer (env.curry f a) w with ⟨- | g, w'⟩
      · simp [binding, hf, hg]
      · simp [binding, hf, hg]

/-- A filtered node makes what its filter side makes, then what its argument side makes, and a
cluster of its own if it is curried. -/
theorem mem_makings_filtered {filter argument : Expr} {curried : Bool} {s : Span}
    (h : m ∈ makings env run held place (.filtered filter argument curried s) w) :
    m ∈ makings env run held (.filter :: place) filter w ∨
      ∃ v w₁, outcome env run (.filter :: place) filter w = (.ok v, w₁) ∧
        (m ∈ makings env run (v :: held) (.argument :: place) argument w₁ ∨
          ∃ a w₂, outcome env run (.argument :: place) argument w₁ = (.ok a, w₂) ∧
            m ∈ binding env run held place curried v a w₂) := by
  rw [makings, List.mem_append] at h
  refine h.imp_right fun h => ?_
  -- the argument side is looked at after a value, and so is the node
  rcases hf : outcome env run (.filter :: place) filter w with ⟨err | v, w₁⟩
  · simp [hf] at h
  · simp only [hf, List.mem_append] at h
    refine ⟨v, w₁, rfl, h.imp_right fun h => ?_⟩
    rcases ha : outcome env run (.argument :: place) argument w₁ with ⟨err | a, w₂⟩
    · simp [ha] at h
    · simp only [ha] at h
      exact ⟨a, w₂, rfl, h⟩

/-! ### Where clusters are made -/

namespace Identity.MadeWithin

variable {i : Identity}

/-- What is made below one side is not made below another one, ... -/
theorem not_of_ne {b d : Branch} (hbd : b ≠ d) (h : i.MadeWithin run (b :: place)) :
    ¬ i.MadeWithin run (d :: place) := by
  obtain ⟨q, rfl⟩ := h
  rintro ⟨q', h⟩
  rw [Identity.curried.injEq] at h
  exact hbd (List.cons.inj (List.append_inj_right' h.2 rfl)).1

/-- ... and not at the node itself. -/
theorem ne_self {b : Branch} (h : i.MadeWithin run (b :: place)) : i ≠ .curried run place := by
  obtain ⟨q, rfl⟩ := h
  intro h
  have := congrArg List.length (Identity.curried.inj h).2
  simp at this
  omega

end Identity.MadeWithin

theorem identity_of_mem_binding {curried : Bool} {v a : Value α}
    (h : m ∈ binding env run held place curried v a w) : m.identity = .curried run place := by
  obtain ⟨-, f, g, w', -, -, rfl⟩ := mem_binding_iff.mp h
  rfl

/-- The evaluation of an expression makes clusters at its nodes. -/
theorem madeWithin_of_mem_makings {e : Expr} (h : m ∈ makings env run held place e w) :
    m.identity.MadeWithin run place := by
  induction e generalizing held place w with
  | identifier x s => cases h
  | implicitIterator s => cases h
  | access base key s ih => exact .of_cons (ih h)
  | filtered filter argument curried s ihf iha =>
    rcases mem_makings_filtered h with h | ⟨v, w₁, -, h | ⟨a, w₂, -, h⟩⟩
    · exact .of_cons (ihf h)
    · exact .of_cons (iha h)
    · rw [identity_of_mem_binding h]
      exact .self

theorem pairwise_binding {R : Making σ α → Making σ α → Prop} (curried : Bool) (v a : Value α) :
    (binding env run held place curried v a w).Pairwise R := by
  unfold binding
  split
  · split
    · exact .nil
    · exact List.pairwise_singleton _ _
  · exact .nil

/-- **An evaluation makes at most one cluster at each node.** -/
theorem pairwise_makings (e : Expr) :
    (makings env run held place e w).Pairwise fun m m' => m.identity ≠ m'.identity := by
  induction e generalizing held place w with
  | identifier x s => exact .nil
  | implicitIterator s => exact .nil
  | access base key s ih => exact ih
  | filtered filter argument curried s ihf iha =>
    rw [makings]
    rcases outcome env run (.filter :: place) filter w with ⟨err | v, w₁⟩
    · rw [List.append_nil]
      exact ihf
    · -- what the sides make is made below different branches
      have hsides : (makings env run held (.filter :: place) filter w ++
          makings env run (v :: held) (.argument :: place) argument w₁).Pairwise
            fun m m' => m.identity ≠ m'.identity := by
        refine List.pairwise_append.mpr ⟨ihf, iha, fun m hm m' hm' h => ?_⟩
        have hfilter := madeWithin_of_mem_makings hm
        exact hfilter.not_of_ne (by decide) (h ▸ madeWithin_of_mem_makings hm')
      dsimp only
      rw [← List.append_assoc]
      rcases outcome env run (.argument :: place) argument w₁ with ⟨err | a, w₂⟩
      · rw [List.append_nil]
        exact hsides
      · -- what the node makes is made at its own place, above both sides
        refine List.pairwise_append.mpr ⟨hsides, pairwise_binding curried v a, ?_⟩
        intro m hm m' hm'
        rw [identity_of_mem_binding hm']
        rcases List.mem_append.mp hm with hm | hm
        · exact (madeWithin_of_mem_makings hm).ne_self
        · exact (madeWithin_of_mem_makings hm).ne_self

/-! ### What is made is new -/

/-- **A cluster is in nothing that exists when it is made.**  It takes an environment that does
not come up with clusters of this evaluation, and none of them may exist at its beginning. -/
theorem not_meets_of_mem_makings {H : Holdings σ α} {e : Expr}
    (henv : ∀ i, i.MadeWithin run place → env.HandsOn H i)
    (hheld : ∀ i, i.MadeWithin run place → ∀ v ∈ held, ¬ v.Holds H.action i)
    (hw : ∀ i, i.MadeWithin run place → ¬ H.world w i)
    (hm : m ∈ makings env run held place e w) : ¬ m.Meets H m.identity := by
  induction e generalizing held place w with
  | identifier x s => cases hm
  | implicitIterator s => cases hm
  | access base key s ih =>
    exact ih (fun i hi => henv i hi.of_cons) (fun i hi => hheld i hi.of_cons)
      (fun i hi => hw i hi.of_cons) hm
  | filtered filter argument curried s ihf iha =>
    -- the filter side makes nothing of what is made elsewhere in the node, ...
    have hfilter : ∀ i, i.MadeWithin run place → ¬ i.MadeWithin run (.filter :: place) →
        ¬ (outcome env run (.filter :: place) filter w).Holds H i :=
      fun i hi hnot => not_holds_outcome (henv i hi) hnot (hw i hi)
    rcases mem_makings_filtered hm with hm | ⟨v, w₁, hf, hm⟩
    · exact ihf (fun i hi => henv i hi.of_cons) (fun i hi => hheld i hi.of_cons)
        (fun i hi => hw i hi.of_cons) hm
    simp only [hf, Outcome.holds_ok, not_or] at hfilter
    rcases hm with hm | ⟨a, w₂, ha, hm⟩
    · have hnot {i : Identity} (hi : i.MadeWithin run (.argument :: place)) :=
        hfilter i hi.of_cons (hi.not_of_ne (by decide))
      refine iha (fun i hi => henv i hi.of_cons) (fun i hi => ?_) (fun i hi => (hnot hi).2) hm
      exact List.forall_mem_cons.mpr ⟨(hnot hi).1, hheld i hi.of_cons⟩
    · -- ... and neither side makes the cluster of the node
      obtain ⟨-, f, g, w₃, hv, hg, rfl⟩ := mem_binding_iff.mp hm
      have hself : (Identity.curried run place).MadeWithin run place := .self
      have hv₁ := hfilter _ hself fun h => h.ne_self rfl
      have ha₂ := not_holds_outcome (e := argument) (henv _ hself)
        (fun h : Identity.MadeWithin run (.argument :: place) _ => h.ne_self rfl) hv₁.2
      rw [ha, Outcome.holds_ok, not_or] at ha₂
      have hgiven := not_or.mpr ⟨Value.not_holds_filter? hv₁.1 hv, ha₂.1⟩
      have hcurry := (henv _ hself).curry f a
      have hanswer := hcurry.not_answer hgiven ha₂.2
      have hworld := hcurry.not_world hgiven ha₂.2
      rw [hg] at hanswer hworld
      -- it is not in the world, not in a value that is held, and not bound by its own filter
      rintro (hi | ⟨u, hu, hi⟩ | hi)
      · exact hworld hi
      · rcases List.mem_cons.mp hu with rfl | hu
        · exact ha₂.1 hi
        · rcases List.mem_cons.mp hu with rfl | hu
          · exact hv₁.1 hi
          · exact hheld _ hself u hu hi
      · exact hanswer ⟨g, rfl, hi⟩

/-! ### Curried nodes that are reached -/

/-- What a curried node with a value makes is this value. -/
theorem map_binding (filter : Expr) (span : Span) (v a : Value α) :
    (binding env run held place true v a w).map (fun m => (m.value, m.world))
      = match used env run place filter true span v a w with
        | (.ok u, w') => [(u, w')]
        | (.error _, _) => [] := by
  rcases hf : v.filter? with - | f
  · simp [binding, hf, used_of_filter?_eq_none hf]
  · rw [used_curried hf]
    rcases hg : answer (env.curry f a) w with ⟨- | g, w'⟩
    · simp [binding, hf, hg, boundOutcome]
    · simp [binding, hf, hg, boundOutcome, Making.value]

/-- **The clusters that an evaluation makes are the values of the curried nodes that it
reaches**, in order. -/
theorem map_makings (e : Expr) :
    (makings env run held place e w).map (fun m => (m.value, m.world))
      = (reached env run place e w).filterMap (boundAt? env run) := by
  induction e generalizing held place w with
  | identifier x s => rfl
  | implicitIterator s => rfl
  | access base key s ih =>
    -- an access has a value of its own, but makes nothing
    rw [makings, reached_access, List.filterMap_append, ih]
    rcases outcome env run (.base :: place) base w with ⟨err | v, w₁⟩
    · simp
    · simp [boundAt?, Expr.isCurried]
  | filtered filter argument curried s ihf iha =>
    rw [makings, reached_filtered, List.filterMap_append, List.map_append, ihf]
    rcases hf : outcome env run (.filter :: place) filter w with ⟨err | v, w₁⟩
    · rfl
    · simp only [List.filterMap_append, List.map_append, iha]
      rcases ha : outcome env run (.argument :: place) argument w₁ with ⟨err | a, w₂⟩
      · rfl
      · cases curried with
        | false => simp [binding, boundAt?, Expr.isCurried]
        | true =>
          -- what the node came to, its sides having their values
          have hnode : outcome env run place (.filtered filter argument true s) w
              = used env run place filter true s v a w₂ := by
            rw [outcome_filtered, hf, Outcome.andThen_ok, ha, Outcome.andThen_ok]
          simp only [map_binding filter s, List.filterMap_cons, List.filterMap_nil, boundAt?,
            Expr.isCurried, if_true, hnode]
          rcases used env run place filter true s v a w₂ with ⟨err | u, w₃⟩
          · rfl
          · rfl

/-! ### Curried nodes with a value -/

/-- **Curried nodes of different evaluations, or at different places, have values that are not
equal**, whatever their filters and their worlds are. -/
theorem equal_eq_false_of_isCurried {env' : Environment (StateM σ) α} {run' : Nat}
    {place' : List Branch} {e e' : Expr} {w' w₁ w₁' : σ} {v v' : Value α}
    (he : e.isCurried = true) (he' : e'.isCurried = true)
    (h : outcome env run place e w = (.ok v, w₁))
    (h' : outcome env' run' place' e' w' = (.ok v', w₁')) (hne : (run, place) ≠ (run', place')) :
    v.equal v' = false := by
  cases e with
  | filtered filter argument curried s =>
    obtain rfl : curried = true := he
    -- both values are clusters with the identities of their nodes
    obtain ⟨g, rfl⟩ := exists_eq_ofFilter_of_curried h
    cases e' with
    | filtered filter' argument' curried' s' =>
      obtain rfl : curried' = true := he'
      obtain ⟨g', rfl⟩ := exists_eq_ofFilter_of_curried h'
      refine decide_eq_false fun heq => hne ?_
      simpa using heq
    | _ => cases he'
  | _ => cases he

end TagExpr
