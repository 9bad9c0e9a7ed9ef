/-
TagExpr/Proofs/ContextRequests.lean

What an evaluation sees of its context.

A context is any pair of answers: a stack, a table, or something with a state of its own that
counts its requests.  An evaluation asks it for the names of the expression and, where there is
an implicit iterator, for the top, and nothing else.  So take two contexts of whatever kinds
that give equal values to these requests:

    c x = c' x  for all names x of e   →   evaluate e c = evaluate e c'.

What they give for any other name, also for one that is a key of the expression, is not seen.
-/
import TagExpr.Proofs.InStep
import TagExpr.Proofs.Substitution

namespace TagExpr

variable {σ α : Type}

/-- If two requests are answered by equal values, and the values are like themselves, the answers
are alike. -/
theorem AnsweredAlike.of_eq {L : Likeness α} {S : σ → σ → Prop} {x y : StateM σ (Value α)}
    (h : AnsweredAlike S Eq x y) (hself : ∀ w, L.value (answer x w).1 (answer x w).1) :
    AnsweredAlike S L.value x y := by
  intro w w' hw
  obtain ⟨hvalue, hworld⟩ := h w w' hw
  exact ⟨hvalue ▸ hself w, hworld⟩

/-- **Evaluation depends on the context only through the names and the dot of the expression.**
Let two contexts of any kind give equal values for each name of an expression and, if it has an
implicit iterator, for the top.  They may have states of their own, as parts of the world: `S`
says which worlds correspond.  Filters and log do the same in worlds that correspond; with
equality for `S` all of them do.  Then the two evaluations make the same requests and use the
same filters on the same arguments, in the same order, come to the same value or to the same
error, and leave worlds that correspond.

The same holds of evaluations with different numbers, where filters and log do not look at the
identities of clusters, up to the identities of the clusters that the two make. -/
theorem evaluate_of_requests {σ α : Type} (host : Host (StateM σ) α)
    (report : Record → StateM σ Unit) (c c' : Context (StateM σ) α) (e : Expr)
    (S : σ → σ → Prop) (hnames : ∀ x ∈ e.names, AnsweredAlike S Eq (c.lookup x) (c'.lookup x))
    (htop : e.HasIterator → AnsweredAlike S Eq c.top c'.top) :
    let env (c : Context (StateM σ) α) : Environment (StateM σ) α := .of c host report
    let o (run : Nat) (c : Context (StateM σ) α) (w : σ) :=
      answer (evaluate (env c).recorded run e) (w, [])
    Likeness.equality.Kept Eq (env c) (env c') ∧
    (Likeness.equality.Kept S (env c) (env c') → ∀ run w w', S w w' →
      (o run c w).1 = (o run c' w').1 ∧ (o run c w).2.2 = (o run c' w').2.2 ∧
        S (o run c w).2.1 (o run c' w').2.1) ∧
    ∀ (run run' : Nat) (A : α → α → Prop),
      (Likeness.rerun run run' A).Kept S (env c) (env c') →
      (∀ x ∈ e.names, ∀ w, (Likeness.rerun run run' A).value (answer (c.lookup x) w).1
        (answer (c.lookup x) w).1) →
      (e.HasIterator → ∀ w, (Likeness.rerun run run' A).value (answer c.top w).1
        (answer c.top w).1) →
      ∀ w w', S w w' → (Likeness.rerun run run' A).WentAlike S Eq (o run c w) (o run' c' w') := by
  intro env o
  refine ⟨Likeness.equality_kept rfl rfl rfl, ?_, ?_⟩
  · -- one evaluation number: alike up to equality is equal
    intro hkept run w w' hw
    have halike : Likeness.equality.WentAlike S Eq (o run c w) (o run c' w') :=
      Likeness.wentAlike_evaluate_same hkept (fun _ => rfl) hnames htop hw
    exact halike.of_equality
  · -- two numbers: the values that the contexts agree on must be like themselves
    intro run run' A hkept hself hselftop w w' hw
    exact Likeness.wentAlike_evaluate_same hkept (fun place => .made place)
      (fun x hx => (hnames x hx).of_eq (hself x hx)) (fun he => (htop he).of_eq (hselftop he)) hw

/-- `same(user.k, ...)` on a stack and on a table, in which `k` is another value and the top is
another one. -/
theorem evaluate_of_requests_table :
    let name (s : String) : Expr := .identifierAt s .dummy
    let same : Value Unit := .ofFilter (.host 0) (.fixed (.new "same" 2 ()))
    let user : Value Unit := .mapping [("k", .int 1)]
    let stack : ContextStack Unit :=
      ⟨[.mapping [("k", .int 7), ("user", user)], .mapping [("same", same)]]⟩
    let bound : Value Unit := .mapping [("same", same), ("user", user)]
    let c : Context (StateM Unit) Unit := stack.toContext
    let c' : Context (StateM Unit) Unit := ⟨fun x => pure (bound.get x), pure (.string "top")⟩
    let e : Expr := .mkFiltered (name "same") (.mkAccess (name "user") (.ofName "k")) true
    let env (c : Context (StateM Unit) Unit) : Environment (StateM Unit) Unit :=
      .of c comparingHost fun _ => pure ()
    let o (run : Nat) (c : Context (StateM Unit) Unit) :=
      answer (evaluate (env c).recorded run e) ((), [])
    let L := Likeness.rerun 0 1 fun _ _ => True
    (∀ x ∈ e.names, AnsweredAlike Eq Eq (c.lookup x) (c'.lookup x)) ∧ ¬ e.HasIterator ∧
    answer (c.lookup "k") () = (.int 7, ()) ∧ answer (c'.lookup "k") () = (.none, ()) ∧
    L.Kept Eq (env c) (env c') ∧
    (∀ x ∈ e.names, ∀ w, L.value (answer (c.lookup x) w).1 (answer (c.lookup x) w).1) ∧
    (o 0 c).1 = .ok (.ofFilter (.curried 0 []) (.fixed ⟨"same", 2, [.int 1], ()⟩)) ∧
    ((o 0 c).1 = (o 0 c').1 ∧ (o 0 c).2.2 = (o 0 c').2.2) ∧ L.WentAlike Eq Eq (o 0 c) (o 1 c') := by
  intro name same user stack bound c c' e env o L
  -- the key of the access is not looked up as a name
  have hx : ∀ x ∈ e.names, x = "same" ∨ x = "user" := by
    intro x hx
    simpa [e, name, Expr.names, Expr.mkFiltered, Expr.mkAccess, Expr.identifierAt] using hx
  have hnames : ∀ x ∈ e.names, AnsweredAlike Eq Eq (c.lookup x) (c'.lookup x) := by
    intro x hmem
    rcases hx x hmem with rfl | rfl
    · exact .pure rfl
    · exact .pure rfl
  have hiterator : ¬ e.HasIterator := by
    simp [e, name, Expr.HasIterator, Expr.mkFiltered, Expr.mkAccess, Expr.identifierAt]
  have hkept : L.Kept Eq (env c) (env c') :=
    (comparingHost_respects (Identity.rerun_biUnique 0 1)).kept ..
  have hself : ∀ x ∈ e.names, ∀ w,
      L.value (answer (c.lookup x) w).1 (answer (c.lookup x) w).1 := by
    intro x hmem w
    rcases hx x hmem with rfl | rfl
    · exact Value.alike_ofFilter_new (.host 0) "same" 2 trivial
    · exact .mapping (.cons (.mk "k" (.scalar _)) .nil)
  obtain ⟨hequality, hsingle, hdouble⟩ := evaluate_of_requests comparingHost (fun _ => pure ()) c c'
    e Eq hnames (fun he => absurd he hiterator)
  obtain ⟨hresult, hevents, -⟩ := hsingle hequality 0 () () rfl
  exact ⟨hnames, hiterator, rfl, rfl, hkept, hself, rfl, ⟨hresult, hevents⟩,
    hdouble 0 1 _ hkept hself (fun he => absurd he hiterator) () () rfl⟩

end TagExpr
