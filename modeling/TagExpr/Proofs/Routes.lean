/-
TagExpr/Proofs/Routes.lean

Values that an expression leads to.

In a stack of scopes the implicit iterator leads to the innermost one, a name to what the
innermost mapping stores under it, and a key from a mapping to what is stored under the key.
The evaluation of such a route hands on the very value that is stored, and changes nothing:

    c.Gives e u   →   outcome env run place e w = (ok u, w).

Scopes are handed on when others are entered and left: none is changed, and when all that were
entered are left, the stack is the one before.  A filter that binds arguments hands on their
values, and its action is run on them in the end.
-/
import TagExpr.Proofs.Arity

namespace TagExpr

variable {σ α : Type}

/-! ### Scopes that are entered and left -/

/-- A scope is entered or left. -/
inductive ScopeStep (α : Type) where
  | push (v : Value α)
  | pop

/-- Every scope that is entered is left again. -/
inductive ScopeStep.Balanced : List (ScopeStep α) → Prop
  | nil : Balanced []
  | scope (v : Value α) {inside rest : List (ScopeStep α)} (hinside : Balanced inside)
      (hrest : Balanced rest) : Balanced (.push v :: inside ++ .pop :: rest)

namespace ContextStack

/-- The stack after a step. -/
def step (c : ContextStack α) : ScopeStep α → ContextStack α
  | .push v => c.push v
  | .pop => c.pop

/-- The stack after several steps. -/
def after (c : ContextStack α) (steps : List (ScopeStep α)) : ContextStack α :=
  steps.foldl step c

theorem after_append (c : ContextStack α) (xs ys : List (ScopeStep α)) :
    c.after (xs ++ ys) = (c.after xs).after ys :=
  List.foldl_append

/-- Every scope is one that was there or one that was entered. -/
theorem mem_scopes_after {c : ContextStack α} {steps : List (ScopeStep α)} {s : Value α}
    (h : s ∈ (c.after steps).scopes) : s ∈ c.scopes ∨ .push s ∈ steps := by
  induction steps generalizing c with
  | nil => exact .inl h
  | cons step rest ih =>
    rcases ih h with h | h
    · cases step with
      | push v =>
        rcases List.mem_cons.mp h with rfl | h
        · exact .inr List.mem_cons_self
        · exact .inl h
      | pop => exact .inl (List.mem_of_mem_tail h)
    · exact .inr (List.mem_cons_of_mem _ h)

/-- When all scopes that were entered are left, the stack is the one before. -/
theorem after_balanced {steps : List (ScopeStep α)} (h : ScopeStep.Balanced steps)
    (c : ContextStack α) : c.after steps = c := by
  induction h generalizing c with
  | nil => rfl
  | @scope v inside rest _ _ ihinside ihrest =>
    calc c.after (.push v :: inside ++ .pop :: rest)
      _ = (((c.push v).after inside).pop).after rest := after_append (c.push v) inside _
      _ = ((c.push v).pop).after rest := by rw [ihinside]
      _ = c := ihrest c

/-! ### Routes -/

/-- An expression leads to a value that is stored in the stack. -/
inductive Gives (c : ContextStack α) : Expr → Value α → Prop
  | top {u outer} (span) (hscopes : c.scopes = u :: outer) : Gives c (.implicitIterator span) u
  | name {inner entries outer u} (x : Ident) (span)
      (hscopes : c.scopes = inner ++ .mapping entries :: outer)
      (hinner : ∀ s ∈ inner, s.get x.name = .none)
      (hentry : Entries.lookup x.name entries = some u) (hu : u ≠ .none) :
      Gives c (.identifier x span) u
  | key {base entries u} (key : Ident) (span) (hbase : Gives c base (.mapping entries))
      (hentry : Entries.lookup key.name entries = some u) : Gives c (.access base key span) u

/-- A name means what the innermost scope gives that gives it anything. -/
theorem lookup_of_inner {inner outer : List (Value α)} {s : Value α} {name : String}
    (hinner : ∀ t ∈ inner, t.get name = .none) (hs : s.get name ≠ .none) :
    (⟨inner ++ s :: outer⟩ : ContextStack α).lookup name = s.get name := by
  induction inner with
  | nil => exact if_neg (mt Value.isNone_iff.mp hs)
  | cons t inner ih =>
    obtain ⟨ht, hinner⟩ := List.forall_mem_cons.mp hinner
    exact (lookup_push_of_get_eq_none (c := ⟨inner ++ s :: outer⟩) ht).trans (ih hinner)

end ContextStack

/-- In the world `w` the context answers as the stack does, and leaves the world as it is. -/
structure Context.Answers (context : Context (StateM σ) α) (c : ContextStack α) (w : σ) : Prop where
  lookup : ∀ name, answer (context.lookup name) w = (c.lookup name, w)
  top : answer context.top w = (c.top, w)

section Routes

variable {env : Environment (StateM σ) α} {c : ContextStack α} {run : Nat} {place : List Branch}
  {w : σ}

/-- A key hands on what the mapping stores under it. -/
theorem outcome_access_of_mapping {base : Expr} {key : Ident} {span : Span} {w' : σ}
    {entries : List (String × Value α)} {u : Value α}
    (hbase : outcome env run (.base :: place) base w = (.ok (.mapping entries), w'))
    (hentry : Entries.lookup key.name entries = some u) :
    outcome env run place (.access base key span) w = (.ok u, w') := by
  rw [outcome_access, hbase, Outcome.andThen_ok, Value.get, hentry, Option.getD_some]

/-- **The evaluation of a route hands on the very value that it leads to.** -/
theorem outcome_of_gives (hcontext : env.toContext.Answers c w) {e : Expr} {u : Value α}
    (h : c.Gives e u) : outcome env run place e w = (.ok u, w) := by
  induction h generalizing place with
  | top span hscopes =>
    rw [outcome_implicitIterator, hcontext.top, ContextStack.top, hscopes]
    rfl
  | @name inner entries outer u x span hscopes hinner hentry hu =>
    obtain ⟨scopes⟩ := c
    obtain rfl : scopes = _ := hscopes
    -- the innermost mapping with the name gives it something, so no other scope is asked
    have hget : (Value.mapping entries).get x.name = u := by
      rw [Value.get, hentry, Option.getD_some]
    rw [outcome_identifier, hcontext.lookup,
      ContextStack.lookup_of_inner hinner (hget ▸ hu), hget]
  | key key span hbase hentry ih => exact outcome_access_of_mapping ih hentry

end Routes

/-- What is stored is handed on as it is, by evaluations with a host and a log. -/
structure StoredIsKept (host : Host (StateM σ) α) (report : Record → StateM σ Unit) : Prop where
  /-- A route comes to the value that it leads to. -/
  route : ∀ (context : Context (StateM σ) α) (c : ContextStack α) run place w e u,
    context.Answers c w → c.Gives e u →
      outcome (.of context host report) run place e w = (.ok u, w)
  /-- So does a key of any mapping. -/
  key : ∀ (context : Context (StateM σ) α) run place w w' base (key : Ident) span entries u,
    outcome (.of context host report) run (.base :: place) base w = (.ok (.mapping entries), w') →
      Entries.lookup key.name entries = some u →
        outcome (.of context host report) run place (.access base key span) w = (.ok u, w')
  /-- Scopes that are entered are the values that were pushed, ... -/
  entered : ∀ (c : ContextStack α) steps, ∀ s ∈ (c.after steps).scopes,
    s ∈ c.scopes ∨ .push s ∈ steps
  /-- ... and to leave them again brings the stack back. -/
  left : ∀ (c : ContextStack α) steps, ScopeStep.Balanced steps → c.after steps = c
  /-- A filter binds the values of its arguments, ... -/
  bound : ∀ (context : Context (StateM σ) α) run place after w w₁ w₂ head args v f us,
    outcome (.of context host report) run (headPlace place (args.length + after)) head w
        = (.ok v, w₁) → v.filter? = some (.fixed f) → args.length < f.remaining →
      ArgumentsGive (.of context host report) run place after args w₁ us w₂ →
        ∃ v' g, outcome (.of context host report) run (headPlace place after) (head.chain args) w
            = (.ok v', w₂) ∧ v'.filter? = some (.fixed g) ∧ g.action = f.action ∧
          g.bound = f.bound ++ us
  /-- ... and when it has them all, its action is run on them. -/
  called : ∀ (context : Context (StateM σ) α) run place w w₁ w₂ head args a e v f us,
    outcome (.of context host report) run (headPlace place (args.length + 1)) head w
        = (.ok v, w₁) → v.filter? = some (.fixed f) → args.length + 1 = f.remaining →
      ArgumentsGive (.of context host report) run place 0 (args ++ [a]) w₁ us w₂ →
        head.call (args ++ [a]) = some e →
          outcome (.of context host report) run place e w
            = appliedOutcome (.of context host report) f.name e.span
                (answer (host.run f.action (f.bound ++ us)) w₂)

theorem storedIsKept (host : Host (StateM σ) α) (report : Record → StateM σ Unit) :
    StoredIsKept host report where
  route _ _ _ _ _ _ _ hcontext h := outcome_of_gives hcontext h
  key _ _ _ _ _ _ _ _ _ _ hbase hentry := outcome_access_of_mapping hbase hentry
  entered _ _ _ := ContextStack.mem_scopes_after
  left c _ h := ContextStack.after_balanced h c
  bound _ _ _ _ _ _ _ _ _ _ _ _ hhead hf hlen hargs := by
    obtain ⟨v', g, hchain, hv', hg⟩ := outcome_chain_fixed hlen hf hhead hargs
    obtain ⟨rfl, -⟩ := FixedFilter.bindAll?_eq_some hg
    exact ⟨v', _, hchain, hv', rfl, rfl⟩
  called _ _ _ _ _ _ head args a _ _ _ _ hhead hf hlen hargs he := by
    obtain rfl := Option.some.inj ((Expr.call_concat head args a).symm.trans he)
    exact outcome_concat_of_all hlen hf hhead hargs

end TagExpr
