/-
TagExpr/Proofs/Scopes.lean

Scopes that an expression does not see.

A name means what the innermost scope gives that gives it anything, and nothing if no scope
does (`lookup_cases`).  A scope that gives a name nothing may therefore be put in anywhere:

    lookup x (inner ++ u :: outer) = lookup x (inner ++ outer)     for u.get x = none.

What an evaluation asks of its stack are the names of the expression and, for the implicit
iterator, the top.  So a scope that binds none of the names changes nothing below the top, and
at the top nothing for an expression without the iterator.  The keys of the expression are asked
of values and not of the stack; the scope may bind them.
-/
import TagExpr.Proofs.InStep
import TagExpr.Proofs.Substitution

namespace TagExpr

variable {σ α : Type}

namespace ContextStack

/-! ### What a name means -/

/-- **The innermost scope that gives a name a value decides what the name means**; where none
does, it means nothing. -/
theorem lookup_cases (c : ContextStack α) (name : String) :
    (∃ before s after, c.scopes = before ++ s :: after ∧ (∀ t ∈ before, t.get name = .none) ∧
      s.get name ≠ .none ∧ c.lookup name = s.get name) ∨
    ((∀ s ∈ c.scopes, s.get name = .none) ∧ c.lookup name = .none) := by
  obtain ⟨scopes⟩ := c
  dsimp only
  induction scopes with
  | nil => exact .inr ⟨nofun, rfl⟩
  | cons u rest ih =>
    have hpush : (⟨u :: rest⟩ : ContextStack α).lookup name
        = if (u.get name).isNone then (⟨rest⟩ : ContextStack α).lookup name else u.get name := rfl
    by_cases hu : u.get name = .none
    · -- the scope lets the name through
      rw [hpush, if_pos (Value.isNone_iff.mpr hu)]
      rcases ih with ⟨before, s, after, rfl, hbefore, hs, hlookup⟩ | ⟨hnone, hlookup⟩
      · exact .inl ⟨u :: before, s, after, rfl, List.forall_mem_cons.mpr ⟨hu, hbefore⟩, hs, hlookup⟩
      · exact .inr ⟨List.forall_mem_cons.mpr ⟨hu, hnone⟩, hlookup⟩
    · rw [hpush, if_neg (mt Value.isNone_iff.mp hu)]
      exact .inl ⟨[], u, rest, rfl, nofun, hu, rfl⟩

/-- A scope that gives a name nothing may be put in anywhere. -/
theorem lookup_insert {u : Value α} {name : String} (h : u.get name = .none)
    (inner outer : List (Value α)) :
    (⟨inner ++ u :: outer⟩ : ContextStack α).lookup name
      = (⟨inner ++ outer⟩ : ContextStack α).lookup name := by
  induction inner with
  | nil => exact lookup_push_of_get_eq_none (c := ⟨outer⟩) h
  | cons s inner ih =>
    show (if (s.get name).isNone then (⟨inner ++ u :: outer⟩ : ContextStack α).lookup name
        else s.get name)
      = if (s.get name).isNone then (⟨inner ++ outer⟩ : ContextStack α).lookup name
        else s.get name
    rw [ih]

/-- Below the top it does not change the top. -/
theorem top_insert {inner : List (Value α)} (h : inner ≠ []) (u : Value α)
    (outer : List (Value α)) :
    (⟨inner ++ u :: outer⟩ : ContextStack α).top = (⟨inner ++ outer⟩ : ContextStack α).top := by
  cases inner with
  | nil => exact absurd rfl h
  | cons s inner => rfl

end ContextStack

/-! ### Scopes that an evaluation does not see -/

/-- **A scope that binds none of the names of an expression is invisible to it.**  A name means what
the innermost scope gives that gives it anything.  So let a scope give nothing for each name of
an expression, whatever it gives for the keys, and let it be put in below the top of a stack, or
on top for an expression without the implicit iterator.  The evaluation stays as it was: with
the same requests, the same uses of filters, and the same value or the same error.

The same holds if the evaluation in the one stack and the evaluation in the other have different
numbers, where filters and log do not look at the identities of clusters: the two go alike up to
the identities of the clusters that they make. -/
theorem evaluate_insert_scope {σ α : Type} (host : Host (StateM σ) α)
    (report : Record → StateM σ Unit) (inner outer : List (Value α)) (u : Value α) (e : Expr)
    (hnames : ∀ x ∈ e.names, u.get x = .none) (htop : inner = [] → ¬ e.HasIterator) :
    let env (c : ContextStack α) : Environment (StateM σ) α := .of c.toContext host report
    let o (run : Nat) (c : ContextStack α) (w : σ) :=
      answer (evaluate (env c).recorded run e) (w, [])
    let plain : ContextStack α := ⟨inner ++ outer⟩
    let wider : ContextStack α := ⟨inner ++ u :: outer⟩
    (∀ (c : ContextStack α) name,
      (∃ before s after, c.scopes = before ++ s :: after ∧ (∀ t ∈ before, t.get name = .none) ∧
        s.get name ≠ .none ∧ c.lookup name = s.get name) ∨
      ((∀ s ∈ c.scopes, s.get name = .none) ∧ c.lookup name = .none)) ∧
    (∀ run w, o run wider w = o run plain w) ∧
    ∀ (run run' : Nat) (A : α → α → Prop) (S : σ → σ → Prop) (w w' : σ),
      (Likeness.rerun run run' A).Kept S (env wider) (env plain) →
      (∀ s ∈ plain.scopes, (Likeness.rerun run run' A).value s s) → S w w' →
      (Likeness.rerun run run' A).WentAlike S Eq (o run wider w) (o run' plain w') := by
  intro env o plain wider
  -- the names and the dot of the expression mean the same in both stacks
  have hlookup : ∀ x ∈ e.names, (env wider).lookup x = (env plain).lookup x := by
    intro x hx
    exact congrArg pure (ContextStack.lookup_insert (hnames x hx) inner outer)
  have hiterator : e.HasIterator → (env wider).top = (env plain).top := by
    intro he
    exact congrArg pure (ContextStack.top_insert (fun hinner => htop hinner he) u outer)
  refine ⟨ContextStack.lookup_cases, ?_, ?_⟩
  · -- one number: the evaluations are equal
    intro run w
    have hkept : Likeness.equality.Kept Eq (env wider) (env plain) :=
      Likeness.equality_kept rfl rfl rfl
    have halike : Likeness.equality.WentAlike Eq Eq (o run wider w) (o run plain w) := by
      refine Likeness.wentAlike_evaluate_same hkept (fun _ => rfl) (fun x hx => ?_)
        (fun he => ?_) rfl
      · rw [hlookup x hx]
        exact .refl _
      · rw [hiterator he]
        exact .refl _
    exact halike.eq
  · intro run run' A S w w' hkept hscopes hw
    -- what the scopes give is like itself, so only the new scope is in the way
    have hlike := List.forall₂_same.mpr hscopes
    refine Likeness.wentAlike_evaluate_same hkept (fun place => .made place) (fun x hx => ?_)
      (fun he => ?_) hw
    · rw [hlookup x hx]
      exact Likeness.answeredAlike_lookup hlike S x
    · rw [hiterator he]
      exact .pure (Likeness.value_top hlike)

/-- `same(user.name, .a)` where the scope below the top binds `user` to nothing and both keys to
other values. -/
theorem evaluate_insert_scope_keys :
    let same : Value Unit := .ofFilter (.host 0) (.fixed (.new "same" 2 ()))
    let inner : List (Value Unit) := [.mapping [("a", .int 1)]]
    let outer : List (Value Unit) :=
      [.int 7, .mapping [("same", same), ("user", .mapping [("name", .int 1)])]]
    let u : Value Unit := .mapping [("a", .int 2), ("name", .int 3), ("user", .none)]
    let name (s : String) : Expr := .identifierAt s .dummy
    let e : Expr := .mkFiltered
      (.mkFiltered (name "same") (.mkAccess (name "user") (.ofName "name")) true)
      (.mkAccess (.implicitIterator .dummy) (.ofName "a")) false
    let env (c : ContextStack Unit) : Environment (StateM Unit) Unit :=
      .of c.toContext comparingHost fun _ => pure ()
    let o (run : Nat) (c : ContextStack Unit) :=
      answer (evaluate (env c).recorded run e) ((), [])
    let L := Likeness.rerun 0 1 fun _ _ => True
    (∀ x ∈ e.names, u.get x = .none) ∧ inner ≠ [] ∧ e.HasIterator ∧
    L.Kept Eq (env ⟨inner ++ u :: outer⟩) (env ⟨inner ++ outer⟩) ∧
    (∀ s ∈ inner ++ outer, L.value s s) ∧ (o 0 ⟨inner ++ outer⟩).1 = .ok (.bool true) ∧
    o 0 ⟨inner ++ u :: outer⟩ = o 0 ⟨inner ++ outer⟩ ∧
    L.WentAlike Eq Eq (o 0 ⟨inner ++ u :: outer⟩) (o 1 ⟨inner ++ outer⟩) := by
  intro same inner outer u name e env o L
  -- `user` is bound to nothing, and the keys are not looked up
  have hnames : ∀ x ∈ e.names, u.get x = .none := by
    intro x hx
    have hx : x = "same" ∨ x = "user" := by
      simpa [e, name, Expr.names, Expr.mkFiltered, Expr.mkAccess, Expr.identifierAt] using hx
    rcases hx with rfl | rfl <;> rfl
  have hinner : inner ≠ [] := by simp [inner]
  have hkept : L.Kept Eq (env ⟨inner ++ u :: outer⟩) (env ⟨inner ++ outer⟩) :=
    (comparingHost_respects (Identity.rerun_biUnique 0 1)).kept ..
  have hscopes : ∀ s ∈ inner ++ outer, L.value s s := by
    have hsame : L.value same same :=
      Value.alike_ofFilter_new (.host 0) "same" 2 trivial
    have huser : L.value (.mapping [("name", .int 1)]) (.mapping [("name", .int 1)]) :=
      .mapping (.cons (.mk "name" (.scalar _)) .nil)
    have hall : List.Forall₂ L.value (inner ++ outer) (inner ++ outer) :=
      .cons (.mapping (.cons (.mk "a" (.scalar _)) .nil))
        (.cons (.scalar _)
          (.cons (.mapping (.cons (.mk "same" hsame) (.cons (.mk "user" huser) .nil))) .nil))
    exact List.forall₂_same.mp hall
  obtain ⟨-, hsingle, hdouble⟩ := evaluate_insert_scope comparingHost (fun _ => pure ()) inner outer
    u e hnames (fun h => absurd h hinner)
  exact ⟨hnames, hinner, .inr trivial, hkept, hscopes, rfl, hsingle 0 (),
    hdouble 0 1 _ Eq () () hkept hscopes rfl⟩

end TagExpr
