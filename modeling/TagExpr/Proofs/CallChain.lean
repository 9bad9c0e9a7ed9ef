/-
TagExpr/Proofs/CallChain.lean

Calls as chains of filtered nodes, and how they are evaluated.

A call nests to the left: `chain h [a₁, …, aₖ]` binds `k` arguments, one node for each, and

    call h (xs ++ [a]) = mkFiltered (chain h xs) a false.

In a chain that stands at `place`, the node with `k` further arguments above it stands at
`headPlace place k`, that is `k` steps down the filter side, and its argument one step to the
side.  A chain is evaluated from the inside out: its head first, then one argument after the
other, each followed by the node that binds it.  An error in between goes up unchanged, and no
later argument is looked at.
-/
import TagExpr.Proofs.World

namespace TagExpr

namespace Expr

/-- An expression with arguments bound to it one by one, all curried. -/
def chain (head : Expr) (args : List Expr) : Expr :=
  args.foldl (fun e a => mkFiltered e a true) head

@[simp] theorem chain_nil (head : Expr) : chain head [] = head := rfl

@[simp] theorem chain_cons (head a : Expr) (args : List Expr) :
    chain head (a :: args) = chain (mkFiltered head a true) args := rfl

theorem chain_append (head : Expr) (xs ys : List Expr) :
    chain head (xs ++ ys) = chain (chain head xs) ys :=
  List.foldl_append

/-- A call binds all its arguments but the last, and applies the last one. -/
theorem call_concat (head : Expr) (args : List Expr) (a : Expr) :
    head.call (args ++ [a]) = some (mkFiltered (chain head args) a false) := by
  induction args generalizing head with
  | nil => rfl
  | cons b rest ih =>
    rw [chain_cons, ← ih]
    cases rest <;> rfl

end Expr

open TagExpr.Expr

/-- Where the node stands that has `k` further arguments above it in a chain at `place`. -/
def headPlace (place : List Branch) (k : Nat) : List Branch :=
  List.replicate k .filter ++ place

theorem headPlace_zero (place : List Branch) : headPlace place 0 = place := rfl

theorem headPlace_succ (place : List Branch) (k : Nat) :
    headPlace place (k + 1) = .filter :: headPlace place k := rfl

variable {σ α : Type}

/-- The arguments of a chain at `place`, with `after` further ones to follow them, have the
values `vs`, each evaluated in the world that the one before it has left. -/
inductive ArgumentsGive (env : Environment (StateM σ) α) (run : Nat) (place : List Branch)
    (after : Nat) : List Expr → σ → List (Value α) → σ → Prop
  | nil (w : σ) : ArgumentsGive env run place after [] w [] w
  | cons {a : Expr} {rest : List Expr} {w w₁ w₂ : σ} {v : Value α} {vs : List (Value α)}
      (first : outcome env run (.argument :: headPlace place (rest.length + after)) a w
        = (.ok v, w₁))
      (others : ArgumentsGive env run place after rest w₁ vs w₂) :
      ArgumentsGive env run place after (a :: rest) w (v :: vs) w₂

variable {env : Environment (StateM σ) α} {run : Nat} {place : List Branch}

theorem ArgumentsGive.length_eq {after : Nat} {args : List Expr} {w w' : σ}
    {vs : List (Value α)} (h : ArgumentsGive env run place after args w vs w') :
    vs.length = args.length := by
  induction h with
  | nil => rfl
  | cons _ _ ih => rw [List.length_cons, List.length_cons, ih]

/-- The last argument is evaluated after all the others. -/
theorem ArgumentsGive.concat {after : Nat} {args : List Expr} {a : Expr} {w w₂ : σ}
    {vs : List (Value α)} (h : ArgumentsGive env run place after (args ++ [a]) w vs w₂) :
    ∃ us w₁ v, ArgumentsGive env run place (after + 1) args w us w₁ ∧
      outcome env run (.argument :: headPlace place after) a w₁ = (.ok v, w₂) ∧
      vs = us ++ [v] := by
  induction args generalizing w vs with
  | nil =>
    cases h with
    | @cons _ _ _ w₁ _ v _ first others =>
      cases others
      rw [List.length_nil, Nat.zero_add] at first
      exact ⟨[], w, v, .nil w, first, rfl⟩
  | cons b rest ih =>
    rw [List.cons_append] at h
    cases h with
    | @cons _ _ _ w₁ _ v _ first others =>
      obtain ⟨us, w', u, hus, hu, rfl⟩ := ih others
      -- the place of the first argument counts the last one among those after it
      rw [List.length_append, List.length_singleton, Nat.add_assoc, Nat.add_comm 1] at first
      exact ⟨v :: us, w', u, .cons first hus, hu, rfl⟩

/-- An error of the filter side is the error of the node. -/
theorem outcome_mkFiltered_of_error {filter : Expr} {w w' : σ} {err : EvalError}
    (h : outcome env run (.filter :: place) filter w = (.error err, w')) (a : Expr)
    (curried : Bool) :
    outcome env run place (mkFiltered filter a curried) w = (.error err, w') := by
  rw [mkFiltered, outcome_filtered, h, Outcome.andThen_error]

/-- An error of the head is the error of the whole chain. -/
theorem outcome_chain_of_error {head : Expr} {args : List Expr} {after : Nat} {w w' : σ}
    {err : EvalError}
    (h : outcome env run (headPlace place (args.length + after)) head w = (.error err, w')) :
    outcome env run (headPlace place after) (chain head args) w = (.error err, w') := by
  induction args generalizing head with
  | nil => rwa [List.length_nil, Nat.zero_add] at h
  | cons a rest ih =>
    rw [List.length_cons, Nat.add_right_comm, headPlace_succ] at h
    exact ih (outcome_mkFiltered_of_error h a true)

end TagExpr
