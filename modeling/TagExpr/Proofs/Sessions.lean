/-
TagExpr/Proofs/Sessions.lean

Sessions: several evaluations one after the other.

A session numbers its evaluations one after the other, and each has a context of its own.  Between
two of them the host may do with a result what it likes, such as keep it in the world, from which
later contexts may take it.  Whatever the host does, it has no cluster of an evaluation before that
evaluation has begun.  So, by induction over the session,

    no world at the beginning of an evaluation holds a cluster with its number or a later one,

and each cluster that is made is unlike all that there is, and unlike all others that are made.
A cluster that is stored, on the other hand, is handed on as it is.
-/
import TagExpr.Proofs.Makings
import TagExpr.Proofs.Routes

namespace TagExpr

variable {σ α : Type}

/-! ### Sessions -/

/-- An evaluation of a session, and what the host does with its result. -/
structure Turn (σ α : Type) where
  context : Context (StateM σ) α
  expr : Expr
  afterwards : Except EvalError (Value α) → StateM σ Unit

/-- What has been done in a turn. -/
structure Done (σ α : Type) where
  turn : Turn σ α
  /-- The number of the evaluation. -/
  run : Nat
  /-- The world in which the evaluation begins; the text of the expression is in the log. -/
  world : σ
  result : Except EvalError (Value α)
  made : List (Making σ α)

section Session

variable (host : Host (StateM σ) α) (report : Record → StateM σ Unit)

namespace Turn

/-- The environment of a turn. -/
def env (t : Turn σ α) : Environment (StateM σ) α :=
  .of t.context host report

/-- What is done in the turn numbered `run`, which begins in the world `w`. -/
def done (t : Turn σ α) (run : Nat) (w : σ) : Done σ α where
  turn := t
  run := run
  world := openedWorld (t.env host report) t.expr w
  result := (answer (evaluate (t.env host report) run t.expr) w).1
  made := makings (t.env host report) run [] [] t.expr (openedWorld (t.env host report) t.expr w)

/-- The world after the turn. -/
def worldAfter (t : Turn σ α) (run : Nat) (w : σ) : σ :=
  let o := answer (evaluate (t.env host report) run t.expr) w
  (answer (t.afterwards o.1) o.2).2

end Turn

/-- A session: one turn after the other, numbered from `run` on. -/
def session (run : Nat) : List (Turn σ α) → σ → List (Done σ α)
  | [], _ => []
  | t :: rest, w =>
    t.done host report run w :: session (run + 1) rest (t.worldAfter host report run w)

/-- All turns are done, in order, and numbered in this order. -/
theorem map_session (run : Nat) (turns : List (Turn σ α)) (w : σ) :
    (session host report run turns w).map (fun d => (d.turn, d.run)) = turns.zipIdx run := by
  induction turns generalizing run w with
  | nil => rfl
  | cons t rest ih => exact congrArg ((t, run) :: ·) (ih _ _)

theorem le_run_of_mem_session {run : Nat} {turns : List (Turn σ α)} {w : σ} {d : Done σ α}
    (hd : d ∈ session host report run turns w) : run ≤ d.run := by
  induction turns generalizing run w with
  | nil => cases hd
  | cons t rest ih =>
    rcases List.mem_cons.mp hd with rfl | hd
    · exact Nat.le_refl run
    · exact Nat.le_of_succ_le (ih hd)

/-- A later turn has a greater number. -/
theorem pairwise_run_session (run : Nat) (turns : List (Turn σ α)) (w : σ) :
    (session host report run turns w).Pairwise fun d d' => d.run < d'.run := by
  induction turns generalizing run w with
  | nil => exact .nil
  | cons t rest ih => exact .cons (fun _ hd => le_run_of_mem_session host report hd) (ih _ _)

/-- Whatever a turn uses only hands on the cluster `i`: its context, the filters and the log, and
what the host does with the result. -/
structure Turn.HandsOn (H : Holdings σ α) (i : Identity) (t : Turn σ α) : Prop where
  context : t.context.HandsOn H i
  host : host.HandsOn H i
  report : ∀ r, H.HandsOn i False (fun _ => False) (report r)
  afterwards : ∀ r, H.HandsOn i (∃ v, r = .ok v ∧ v.Holds H.action i) (fun _ => False)
    (t.afterwards r)

end Session

/-! ### What worlds hold in a session -/

/-- The cluster was made before the evaluation numbered `run`, or by the host. -/
def Identity.MadeBefore (run : Nat) : Identity → Prop
  | host _ => True
  | curried r _ => r < run

namespace Identity

/-- What an evaluation makes was not made before it. -/
theorem MadeWithin.not_madeBefore {run : Nat} {i : Identity} (h : i.MadeWithin run []) :
    ¬ i.MadeBefore run := by
  obtain ⟨q, rfl⟩ := h
  exact Nat.lt_irrefl run

/-- What is not made before a later evaluation is made neither before nor in an earlier one. -/
theorem not_made_of_lt {run run' : Nat} (hlt : run < run') {i : Identity}
    (h : ¬ i.MadeBefore run') : ¬ i.MadeBefore run ∧ ¬ i.MadeWithin run [] := by
  cases i with
  | host serial => exact absurd trivial h
  | curried r p =>
    have hr : run' ≤ r := Nat.le_of_not_lt h
    refine ⟨Nat.not_lt_of_le (Nat.le_trans (Nat.le_of_lt hlt) hr), ?_⟩
    rintro ⟨q, hq⟩
    exact absurd (Identity.curried.inj hq).1 (by omega)

end Identity

section Worlds

variable {host : Host (StateM σ) α} {report : Record → StateM σ Unit} {H : Holdings σ α}
  {i : Identity} {t : Turn σ α} {run : Nat} {turns : List (Turn σ α)} {w : σ} {d : Done σ α}

theorem Turn.HandsOn.env (h : t.HandsOn host report H i) : (t.env host report).HandsOn H i :=
  h.host.environment h.context h.report

/-- A turn leaves no cluster in the world but those that it makes. -/
theorem Turn.HandsOn.not_world_worldAfter (h : t.HandsOn host report H i)
    (hi : ¬ i.MadeWithin run []) (hw : ¬ H.world w i) :
    ¬ H.world (t.worldAfter host report run w) i := by
  have ho := not_holds_evaluate h.env (e := t.expr) hi hw
  rw [Outcome.Holds, not_or] at ho
  exact (h.afterwards _).not_world ho.1 ho.2

/-- **No evaluation of a session begins in a world that holds clusters with its number** or with
that of a later one. -/
theorem exists_done_of_mem_session
    (hturns : ∀ t ∈ turns.zipIdx run, ∀ i, ¬ i.MadeBefore t.2 → t.1.HandsOn host report H i)
    (hw : ∀ i, ¬ i.MadeBefore run → ¬ H.world w i) (hd : d ∈ session host report run turns w) :
    ∃ t n w', (t, n) ∈ turns.zipIdx run ∧ d = t.done host report n w' ∧
      ∀ i, ¬ i.MadeBefore n → ¬ H.world w' i := by
  induction turns generalizing run w with
  | nil => cases hd
  | cons t rest ih =>
    rw [List.zipIdx_cons] at hturns ⊢
    obtain ⟨ht, hrest⟩ := List.forall_mem_cons.mp hturns
    rcases List.mem_cons.mp hd with rfl | hd
    · exact ⟨t, run, w, List.mem_cons_self, rfl, hw⟩
    · -- the next evaluation has a greater number than the clusters of this one
      have hnext : ∀ i, ¬ i.MadeBefore (run + 1) →
          ¬ H.world (t.worldAfter host report run w) i := by
        intro i hi
        obtain ⟨hbefore, hwithin⟩ := Identity.not_made_of_lt (Nat.lt_succ_self run) hi
        exact (ht i hbefore).not_world_worldAfter hwithin (hw i hbefore)
      obtain ⟨t', n, w', ht', h⟩ := ih hrest hnext hd
      exact ⟨t', n, w', List.mem_cons_of_mem _ ht', h⟩

/-! ### Clusters of a session -/

/-- Clusters that are made with different identities are not equal. -/
theorem Making.equal_value_eq_false {m m' : Making σ α} (h : m.identity ≠ m'.identity) :
    m.value.equal m'.value = false :=
  decide_eq_false h

theorem Turn.result_done (run : Nat) (w : σ) : (t.done host report run w).result
    = (outcome (t.env host report) run [] t.expr (t.done host report run w).world).1 := by
  simp only [Turn.done, answer_evaluate]

theorem Turn.madeWithin_of_mem_made {m : Making σ α} (hm : m ∈ (t.done host report run w).made) :
    m.identity.MadeWithin run [] :=
  madeWithin_of_mem_makings hm

theorem Turn.exists_outcome_eq_ok {v : Value α} (hv : (t.done host report run w).result = .ok v) :
    ∃ w', outcome (t.env host report) run [] t.expr (t.done host report run w).world
      = (.ok v, w') := by
  rw [Turn.result_done] at hv
  exact ⟨_, Prod.ext hv rfl⟩

/-- In a turn that begins in a world without clusters of its number, each cluster is unlike all
that there is when it is made. -/
theorem Turn.equal_eq_false_of_mem_made
    (ht : ∀ i, ¬ i.MadeBefore run → t.HandsOn host report H i)
    (hw : ∀ i, ¬ i.MadeBefore run → ¬ H.world w i) {m : Making σ α}
    (hm : m ∈ (t.done host report run w).made) {u : Value α}
    (hu : ∀ i, u.Holds H.action i → i.MadeBefore run ∨ m.Meets H i) :
    m.value.equal u = false := by
  have henv (i : Identity) (hi : i.MadeWithin run []) : (t.env host report).HandsOn H i :=
    (ht i hi.not_madeBefore).env
  -- the new identity is nowhere in what the node meets, so it is not in `u`
  have hnew : ¬ m.Meets H m.identity :=
    not_meets_of_mem_makings henv (fun _ _ => List.forall_mem_nil _)
      (fun i hi => not_world_openedWorld (henv i hi) t.expr (hw i hi.not_madeBefore)) hm
  apply Value.equal_ofFilter_eq_false
  exact fun h => (hu m.identity h).elim (t.madeWithin_of_mem_made hm).not_madeBefore hnew

/-- Clusters of evaluations with different numbers are not equal. -/
theorem identity_ne_of_run_lt {t' : Turn σ α} {run' : Nat} (hlt : run < run') {w' : σ}
    {m m' : Making σ α} (hm : m ∈ (t.done host report run w).made)
    (hm' : m' ∈ (t'.done host report run' w').made) : m.identity ≠ m'.identity := by
  obtain ⟨q, hq⟩ := t.madeWithin_of_mem_made hm
  obtain ⟨q', hq'⟩ := t'.madeWithin_of_mem_made hm'
  rw [hq, hq']
  intro h
  exact absurd (Identity.curried.inj h).1 (Nat.ne_of_lt hlt)

/-- A turn whose expression is a route comes to the value that it leads to. -/
theorem Turn.result_of_gives {c : ContextStack α} {u : Value α}
    (hcontext : t.context.Answers c (t.done host report run w).world) (h : c.Gives t.expr u) :
    (t.done host report run w).result = .ok u := by
  have houtcome : outcome (t.env host report) run [] t.expr (t.done host report run w).world
      = (.ok u, (t.done host report run w).world) :=
    outcome_of_gives hcontext h
  rw [Turn.result_done, houtcome]

end Worlds

/-- **Each argument that is bound makes a new cluster, and a cluster that is stored stays the
same.**  Take a session of any number of evaluations, in which context, filters, log and host hand
on only what they are given, what the world has, and what they make themselves.  All its
evaluations are done, numbered in their order, and each makes one cluster for each curried node
that it reaches and that has a value, which is this cluster.  The cluster is not equal to any
value that consists of what exists at this moment, nor to what another node or another evaluation
makes, be it one that a filter runs.  So two curried expressions with values, such as one
expression evaluated twice, have values that are not equal.

Names, the implicit iterator, keys of mappings, scopes and bound arguments hand on the very value
that is stored; so two evaluations that are led to one cluster have equal values. -/
theorem session_clusters {σ α : Type} (H : Holdings σ α) (host : Host (StateM σ) α)
    (report : Record → StateM σ Unit) (turns : List (Turn σ α)) (first : Nat) (w : σ)
    (hturns : ∀ t ∈ turns.zipIdx first, ∀ i, ¬ i.MadeBefore t.2 → t.1.HandsOn host report H i)
    (hw : ∀ i, ¬ i.MadeBefore first → ¬ H.world w i) :
    let done := session host report first turns w
    done.map (fun d => (d.turn, d.run)) = turns.zipIdx first ∧
    (∀ d ∈ done, d.made.map (fun m => (m.value, m.world))
      = (reached (d.turn.env host report) d.run [] d.turn.expr d.world).filterMap
          (boundAt? (d.turn.env host report) d.run)) ∧
    (∀ d ∈ done, ∀ m ∈ d.made, ∀ u : Value α,
      (∀ i, u.Holds H.action i → i.MadeBefore d.run ∨ m.Meets H i) →
        m.value.equal u = false) ∧
    (done.flatMap Done.made).Pairwise (fun m m' => m.value.equal m'.value = false) ∧
    (∀ (env env' : Environment (StateM σ) α) run run' place place' (e e' : Expr) w w' w₁ w₁' v v',
      e.isCurried = true → e'.isCurried = true → outcome env run place e w = (.ok v, w₁) →
        outcome env' run' place' e' w' = (.ok v', w₁') → (run, place) ≠ (run', place') →
          v.equal v' = false) ∧
    done.Pairwise (fun d d' => d.turn.expr.isCurried = true → d'.turn.expr.isCurried = true →
      ∀ v v', d.result = .ok v → d'.result = .ok v' → v.equal v' = false) ∧
    StoredIsKept host report ∧
    ∀ d ∈ done, ∀ d' ∈ done, ∀ c c' k, d.turn.context.Answers c d.world →
      d'.turn.context.Answers c' d'.world → c.Gives d.turn.expr (.cluster k) →
        c'.Gives d'.turn.expr (.cluster k) →
          ∃ v v', d.result = .ok v ∧ d'.result = .ok v' ∧ v.equal v' = true := by
  intro done
  have hdone {d : Done σ α} (hd : d ∈ done) :
      ∃ t n w', (t, n) ∈ turns.zipIdx first ∧ d = t.done host report n w' ∧
        ∀ i, ¬ i.MadeBefore n → ¬ H.world w' i :=
    exists_done_of_mem_session hturns hw hd
  have hlt : done.Pairwise fun d d' => d.run < d'.run :=
    pairwise_run_session host report first turns w
  refine ⟨map_session host report first turns w, ?_, ?_, ?_, ?_, ?_, storedIsKept host report, ?_⟩
  · intro d hd
    obtain ⟨t, n, w', -, rfl, -⟩ := hdone hd
    exact map_makings t.expr
  · -- no cluster with the number of the evaluation exists when it begins, and each place is new
    intro d hd m hm u hu
    obtain ⟨t, n, w', ht, rfl, hw'⟩ := hdone hd
    exact t.equal_eq_false_of_mem_made (hturns (t, n) ht) hw' hm hu
  · -- what one evaluation makes has different places, what two make has different numbers
    refine List.pairwise_flatMap.mpr ⟨fun d hd => ?_, ?_⟩
    · obtain ⟨t, n, w', -, rfl, -⟩ := hdone hd
      exact (pairwise_makings t.expr).imp Making.equal_value_eq_false
    · refine hlt.imp_of_mem fun {d d'} hd hd' hlt m hm m' hm' => ?_
      obtain ⟨t, n, w₁, -, rfl, -⟩ := hdone hd
      obtain ⟨t', n', w₂, -, rfl, -⟩ := hdone hd'
      exact Making.equal_value_eq_false (identity_ne_of_run_lt hlt hm hm')
  · intro env env' run run' place place' e e' w w' w₁ w₁' v v' he he' h h' hne
    exact equal_eq_false_of_isCurried he he' h h' hne
  · -- the values are the clusters of the two roots, which have different numbers
    refine hlt.imp_of_mem fun {d d'} hd hd' hlt hcurried hcurried' v v' hv hv' => ?_
    obtain ⟨t, n, w₁, -, rfl, -⟩ := hdone hd
    obtain ⟨t', n', w₂, -, rfl, -⟩ := hdone hd'
    obtain ⟨_, h⟩ := t.exists_outcome_eq_ok hv
    obtain ⟨_, h'⟩ := t'.exists_outcome_eq_ok hv'
    refine equal_eq_false_of_isCurried hcurried hcurried' h h' fun heq => ?_
    exact Nat.ne_of_lt hlt (congrArg Prod.fst heq)
  · -- both come to the cluster that they are led to
    intro d hd d' hd' c c' k hcontext hcontext' h h'
    obtain ⟨t, n, w₁, -, rfl, -⟩ := hdone hd
    obtain ⟨t', n', w₂, -, rfl, -⟩ := hdone hd'
    exact ⟨_, _, t.result_of_gives hcontext h, t'.result_of_gives hcontext' h',
      decide_eq_true rfl⟩

/-! ### A session that keeps its results -/

/-- A host whose filters of two arguments tell whether these are equal, and whose other filters
give one and the same filter for every argument. -/
def sharingHost : Host (StateM (List (Value Unit))) Unit where
  run _ vs := pure (.ok (match vs with
    | [v, w] => some (.bool (v.equal w))
    | _ => none))
  apply _ _ := pure (.ok none)
  curry a _ := pure (some (.custom "shared" a))

/-- The scopes of a host that has kept some results: its filters, the first result under two
keys, and this result itself. -/
def keptScopes (kept : List (Value Unit)) : ContextStack Unit :=
  ⟨[kept.head?.getD .none, .mapping [("kept", .mapping [("first", kept.head?.getD .none)])],
    .mapping [("same", .ofFilter (.host 0) (.fixed (.new "same" 2 ()))),
      ("shared", .ofFilter (.host 1) (.custom "shared" ()))]]⟩

/-- A turn in these scopes, after which a result is kept. -/
def keepingTurn (e : Expr) : Turn (List (Value Unit)) Unit where
  context := {
    lookup := fun name kept => ((keptScopes kept).lookup name, kept)
    top := fun kept => ((keptScopes kept).top, kept) }
  expr := e
  afterwards
    | .ok v => modify (· ++ [v])
    | .error _ => pure ()

/-- Such a world holds what it keeps. -/
def keptHoldings : Holdings (List (Value Unit)) Unit where
  action _ _ := False
  world kept i := ∃ v ∈ kept, v.Holds (fun _ _ => False) i

/-- The scopes hold clusters of the host and what is kept. -/
theorem not_holds_keptScopes {i : Identity} (hi : ∀ n, i ≠ .host n) {kept : List (Value Unit)}
    (hkept : ¬ keptHoldings.world kept i) :
    ∀ s ∈ (keptScopes kept).scopes, ¬ s.Holds keptHoldings.action i := by
  have hfirst : ¬ (kept.head?.getD .none).Holds keptHoldings.action i :=
    Value.not_holds_getD fun v hv h => hkept ⟨v, List.mem_of_mem_head? hv, h⟩
  have hsame : ¬ Filter.Holds keptHoldings.action (.fixed (.new "same" 2 ())) i := by
    intro h
    cases h with
    | bound hv _ => cases hv
    | action h => exact h
  have hshared : ¬ Filter.Holds keptHoldings.action (.custom "shared" ()) i := by
    intro h
    cases h with
    | custom h => exact h
  simp [keptScopes, Value.holds_mapping_iff, Value.holds_ofFilter_iff, hi, hfirst, hsame, hshared]

theorem sharingHost_handsOn (i : Identity) : sharingHost.HandsOn keptHoldings i where
  run a vs := by
    -- two arguments are compared, and a truth value holds no cluster
    refine Holdings.handsOn_pure ?_
    rintro ⟨v, hv, h⟩
    simp only [Except.ok.injEq] at hv
    split at hv
    · cases hv
      cases h
    · cases hv
  apply a v := by
    refine Holdings.handsOn_pure ?_
    rintro ⟨u, hu, -⟩
    cases hu
  curry a v := by
    refine Holdings.handsOn_pure ?_
    rintro ⟨g, hg, h⟩
    cases hg
    cases h with
    | custom h => exact h.elim

theorem keepingTurn_handsOn (e : Expr) {i : Identity} (hi : ∀ n, i ≠ .host n) :
    (keepingTurn e).HandsOn sharingHost (fun _ => pure ()) keptHoldings i where
  context := {
    lookup := fun name => Holdings.handsOn_of_not fun kept _ hkept =>
      ⟨ContextStack.not_holds_lookup (not_holds_keptScopes hi hkept) name, hkept⟩
    top := Holdings.handsOn_of_not fun kept _ hkept =>
      have htop : ¬ (keptScopes kept).top.Holds keptHoldings.action i :=
        ContextStack.not_holds_top (not_holds_keptScopes hi hkept)
      ⟨htop, hkept⟩ }
  host := sharingHost_handsOn i
  report r := Holdings.handsOn_pure id
  afterwards
    | .error err => Holdings.handsOn_pure False.elim
    | .ok v => Holdings.handsOn_of_not fun kept hv hkept => by
      -- the result that is kept was given to the turn, and the others were there
      refine ⟨id, ?_⟩
      rintro ⟨u, hu, h⟩
      rcases List.mem_append.mp hu with hu | hu
      · exact hkept ⟨u, hu, h⟩
      · rw [List.mem_singleton] at hu
        exact hv ⟨u, hu ▸ rfl, h⟩

/-- A session in which `shared(same, ...)` is evaluated twice, and the first of the two clusters
is then reached as `kept.first`, as the implicit iterator, and as both arguments of a filter. -/
theorem session_clusters_kept :
    let name (s : String) : Expr := .identifierAt s .dummy
    let e : Expr := .filtered (name "shared") (name "same") true .dummy
    let first : Expr := .mkAccess (name "kept") (.ofName "first")
    let dot : Expr := .implicitIterator .dummy
    let call : Expr := .mkFiltered (.mkFiltered (name "same") first true) dot false
    let turns := [keepingTurn e, keepingTurn e, keepingTurn first, keepingTurn dot,
      keepingTurn call]
    let v (run : Nat) : Value Unit := .ofFilter (.curried run []) (.custom "shared" ())
    let done := session sharingHost (fun _ => pure ()) 0 turns []
    (∀ t ∈ turns.zipIdx 0, ∀ i, ¬ i.MadeBefore t.2 →
      t.1.HandsOn sharingHost (fun _ => pure ()) keptHoldings i) ∧
    (∀ i, ¬ i.MadeBefore 0 → ¬ keptHoldings.world [] i) ∧
    done.map Done.result = [.ok (v 0), .ok (v 1), .ok (v 0), .ok (v 0), .ok (.bool true)] ∧
    (v 0).equal (v 1) = false ∧ (v 0).equal (v 0) = true := by
  intro name e first dot call turns v done
  have hturns : ∀ t ∈ turns.zipIdx 0, ∀ i, ¬ i.MadeBefore t.2 →
      t.1.HandsOn sharingHost (fun _ => pure ()) keptHoldings i := by
    intro t ht i hi
    -- clusters of the host count as made before every evaluation
    have hhost : ∀ n, i ≠ .host n := by
      rintro n rfl
      exact hi trivial
    have hmem := List.fst_mem_of_mem_zipIdx ht
    simp only [turns, List.mem_cons, List.not_mem_nil, or_false] at hmem
    rcases hmem with h | h | h | h | h
    all_goals
      rw [h]
      exact keepingTurn_handsOn _ hhost
  have hw : ∀ i, ¬ i.MadeBefore 0 → ¬ keptHoldings.world [] i := by
    rintro i - ⟨u, hu, -⟩
    cases hu
  obtain ⟨-, -, -, -, -, hcurried, -, hroutes⟩ := session_clusters keptHoldings sharingHost
    (fun _ => pure ()) turns 0 [] hturns hw
  have hunequal : (v 0).equal (v 1) = false :=
    List.rel_of_pairwise_cons hcurried List.mem_cons_self rfl rfl (v 0) (v 1) rfl rfl
  -- the first cluster is stored under a key and is the innermost scope
  have hfirst : (keptScopes [v 0, v 1]).Gives first (v 0) :=
    have hkept : (keptScopes [v 0, v 1]).Gives (name "kept") (.mapping [("first", v 0)]) :=
      @ContextStack.Gives.name _ _ [v 0] _ _ _ _ _ rfl (List.forall_mem_singleton.mpr rfl) rfl
        nofun
    .key _ _ hkept rfl
  have hdot : (keptScopes [v 0, v 1, v 0]).Gives dot (v 0) := .top _ rfl
  obtain ⟨u, u', hu, hu', hequal⟩ := hroutes _
    (List.mem_cons_of_mem _ (List.mem_cons_of_mem _ List.mem_cons_self)) _
    (List.mem_cons_of_mem _ (List.mem_cons_of_mem _ (List.mem_cons_of_mem _ List.mem_cons_self)))
    _ _ _ ⟨fun _ => rfl, rfl⟩ ⟨fun _ => rfl, rfl⟩ hfirst hdot
  cases hu
  cases hu'
  exact ⟨hturns, hw, rfl, hunequal, hequal⟩

end TagExpr
