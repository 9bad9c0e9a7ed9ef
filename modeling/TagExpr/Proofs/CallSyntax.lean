/-
TagExpr/Proofs/CallSyntax.lean

Calls taken apart again, and how they are written.

The nodes of a call are peeled off from the outside: first the applied one, then one curried node
for each argument before, down to the head.

    call h (xs ++ [a]) = filtered f a applied      and peeling f gives xs, the last first, and h.

A head that is no curried node is where peeling stops, so it and the arguments are fixed by the
call.  Writing a filtered node peels its chain in the same way, whatever the spans of the
nodes are and whatever expressions the arguments are:

    (filtered f a curried s).print  =  h(x₁, …, xₙ, a)  or  h(x₁, …, xₙ, a, ...).
-/
import Mathlib.Data.List.Basic
import TagExpr.Proofs.CallChain
import TagExpr.Proofs.Reading

namespace TagExpr

namespace Expr

/-! ### Peeling -/

/-- Peeling curried nodes off an expression, from the outside, gives the arguments `args` and
leaves `h`. -/
inductive Peels : Expr → List Expr → Expr → Prop
  | none (h : Expr) : Peels h [] h
  | node {f h : Expr} {args : List Expr} (a : Expr) (s : Span) (rest : Peels f args h) :
    Peels (filtered f a true s) (a :: args) h

theorem Peels.append {e f h : Expr} {xs ys : List Expr} (hx : Peels e xs f) (hy : Peels f ys h) :
    Peels e (xs ++ ys) h := by
  induction hx with
  | none f => exact hy
  | node a s _ ih => exact .node a s (ih hy)

/-- Peeling stops at an expression that is no curried node, and nowhere else. -/
theorem Peels.unique {e h g : Expr} {xs ys : List Expr} (hx : Peels e xs h) (hy : Peels e ys g)
    (hh : h.isCurried = false) (hg : g.isCurried = false) : xs = ys ∧ h = g := by
  induction hx generalizing ys with
  | none h =>
    cases hy with
    | none => exact ⟨rfl, rfl⟩
    | node => cases hh
  | node a s _ ih =>
    cases hy with
    | none => cases hg
    | node _ _ rest =>
      obtain ⟨rfl, rfl⟩ := ih rest hh
      exact ⟨rfl, rfl⟩

theorem peels_chain (h : Expr) (args : List Expr) : Peels (chain h args) args.reverse h := by
  induction args generalizing h with
  | nil => exact .none h
  | cons a rest ih =>
    rw [chain_cons, List.reverse_cons]
    exact (ih _).append (.node a _ (.none h))

/-- The curried nodes down to the base of a chain store the merged spans of their sides. -/
def MergedChain : Expr → Prop
  | filtered f a true s => f.MergedChain ∧ s = f.span.merge a.span
  | _ => True

/-- A chain with such spans is built from its base. -/
theorem Peels.eq_chain {e h : Expr} {args : List Expr} (hpeels : Peels e args h)
    (hmerged : e.MergedChain) : e = chain h args.reverse := by
  induction hpeels with
  | none h => rfl
  | node a s rest ih =>
    obtain ⟨hf, rfl⟩ := hmerged
    rw [List.reverse_cons, chain_append, ← ih hf]
    rfl

/-- **A call is an applied node above a chain that peels back to its head.** -/
theorem exists_call_eq (h : Expr) {args : List Expr} (hargs : args ≠ []) :
    ∃ f a s rest, h.call args = some (filtered f a false s) ∧ Peels f rest h ∧
      a :: rest = args.reverse := by
  obtain ⟨init, a, rfl⟩ := (List.eq_nil_or_concat' args).resolve_left hargs
  refine ⟨chain h init, a, _, init.reverse, call_concat h init a, peels_chain h init, ?_⟩
  rw [List.reverse_append, List.reverse_singleton, List.singleton_append]

/-- Head and arguments are fixed by the call. -/
theorem call_inj {h g : Expr} {xs ys : List Expr} (hh : h.isCurried = false)
    (hg : g.isCurried = false) (hx : xs ≠ []) (hy : ys ≠ []) (hcall : h.call xs = g.call ys) :
    h = g ∧ xs = ys := by
  obtain ⟨f, a, s, us, hf, hfpeels, hxs⟩ := exists_call_eq h hx
  obtain ⟨f', b, t, vs, hf', hf'peels, hys⟩ := exists_call_eq g hy
  rw [hf, hf', Option.some.injEq, filtered.injEq] at hcall
  obtain ⟨rfl, rfl, -, -⟩ := hcall
  obtain ⟨rfl, rfl⟩ := hfpeels.unique hf'peels hh hg
  exact ⟨rfl, List.reverse_inj.mp (hxs.symm.trans hys)⟩

/-- A call of a chain is the call of its base with all arguments. -/
theorem call_chain (h : Expr) (xs : List Expr) {ys : List Expr} (hy : ys ≠ []) :
    (chain h xs).call ys = h.call (xs ++ ys) := by
  obtain ⟨init, a, rfl⟩ := (List.eq_nil_or_concat' ys).resolve_left hy
  rw [call_concat, ← List.append_assoc, call_concat, chain_append]

/-! ### Writing -/

/-- The last text of a list has no comma after it. -/
theorem intercalate_concat (sep : String) (texts : List String) (last : String) :
    sep.intercalate (texts ++ [last]) = String.join (texts.map (· ++ sep)) ++ last := by
  induction texts with
  | nil => simp
  | cons t rest ih =>
    rw [List.cons_append, String.intercalate_cons_of_ne_nil (by simp), ih]
    simp [String.append_assoc]

/-- As the head of a further argument, a chain is written as its base and its arguments. -/
theorem Peels.write_true {f h : Expr} {args : List Expr} (hpeels : Peels f args h)
    (hh : h.isCurried = false) :
    f.write true = h.print ++ "(" ++ String.join (args.reverse.map (·.print ++ ", ")) := by
  induction hpeels with
  | none h => simp [write_true_of_not_curried hh, print]
  | node a s rest ih => simp [write, closing, ih hh, print, String.append_assoc]

/-- **A filtered node is written as one call of the base of its chain**, with its own argument at
the end, and with dots after it if the node is curried. -/
theorem Peels.print_filtered {f h : Expr} {args : List Expr} (hpeels : Peels f args h)
    (hh : h.isCurried = false) (a : Expr) (curried : Bool) (s : Span) :
    (filtered f a curried s).print = h.print ++ "("
      ++ ", ".intercalate ((args.reverse ++ [a]).map print) ++ closing curried false := by
  rw [print, write, hpeels.write_true hh, List.map_append, List.map_singleton, intercalate_concat,
    List.map_map, Function.comp_def]
  simp only [print, String.append_assoc]

/-- A call of a chain is written as a call of its base. -/
theorem Peels.print_call {h h₀ : Expr} {xs ys : List Expr} (hpeels : Peels h xs.reverse h₀)
    (hh : h₀.isCurried = false) (hy : ys ≠ []) :
    ∃ e, h.call ys = some e ∧
      e.print = h₀.print ++ "(" ++ ", ".intercalate ((xs ++ ys).map print) ++ ")" := by
  obtain ⟨f, a, s, rest, hcall, hrest, hargs⟩ := exists_call_eq h hy
  have hys : rest.reverse ++ [a] = ys := by
    rw [← List.reverse_cons, hargs, List.reverse_reverse]
  refine ⟨_, hcall, ?_⟩
  rw [(hrest.append hpeels).print_filtered hh, List.reverse_append, List.reverse_reverse,
    List.append_assoc, hys]
  rfl

/-! ### Calls together -/

/-- **A call can be taken apart again, and is written as it was made.**  It is an applied node whose
chain, peeled from the outside, gives back the arguments, the last first, and ends at the
head.  Of heads that are no curried nodes, each call has one head and one list of arguments, and
it is written as that head with these arguments in parentheses.  A call of a curried chain
is the call of the base of the chain with all arguments, if the nodes of the chain store the
spans of their sides, merged; it is written as that call whatever spans they store. -/
theorem call_peels_and_prints :
    (∀ (h : Expr) (args : List Expr), args ≠ [] → ∃ f a s rest,
      h.call args = some (filtered f a false s) ∧ Peels f rest h ∧ a :: rest = args.reverse) ∧
    (∀ (h₁ h₂ : Expr) (xs ys : List Expr), h₁.isCurried = false → h₂.isCurried = false →
      xs ≠ [] → ys ≠ [] → h₁.call xs = h₂.call ys → h₁ = h₂ ∧ xs = ys) ∧
    (∀ (h : Expr) (args : List Expr), h.isCurried = false → args ≠ [] → ∃ e,
      h.call args = some e ∧
      e.print = h.print ++ "(" ++ ", ".intercalate (args.map print) ++ ")") ∧
    ∀ (h h₀ : Expr) (xs ys : List Expr), h₀.isCurried = false → Peels h xs.reverse h₀ →
      ys ≠ [] →
      (h.MergedChain → h.call ys = h₀.call (xs ++ ys)) ∧
      ∃ e, h.call ys = some e ∧
        e.print = h₀.print ++ "(" ++ ", ".intercalate ((xs ++ ys).map print) ++ ")" := by
  refine ⟨fun h _ => exists_call_eq h, fun _ _ _ _ => call_inj, ?_, ?_⟩
  · intro h args hh hargs
    -- a head that is not curried peels to itself
    have hself : Peels h ([] : List Expr).reverse h := .none h
    exact hself.print_call hh hargs
  · intro h h₀ xs ys hh hpeels hy
    refine ⟨fun hmerged => ?_, hpeels.print_call hh hy⟩
    rw [hpeels.eq_chain hmerged, List.reverse_reverse, call_chain h₀ xs hy]

/-- The head `f(x)` is applied and the argument `g(b, ...)` is left open; neither is taken for a
part of the chain.  Binding that argument to the head gives two chains, one of them with a span
of its own. -/
theorem call_peels_and_prints_applied :
    let head := mkFiltered (identifierAt "f" (.ofNat 0 1)) (identifierAt "x" (.ofNat 2 3)) false
    let dangling := mkFiltered (identifierAt "g" (.ofNat 5 6)) (identifierAt "b" (.ofNat 7 8)) true
    let key := mkAccess (implicitIterator (.ofNat 16 17)) ⟨"c", .ofNat 17 18⟩
    let chained := mkFiltered head dangling true
    let moved := chained.withSpan (.ofNat 40 50)
    head.isCurried = false ∧ Peels moved [dangling] head ∧ chained.MergedChain ∧
      chained.call [key] = head.call [dangling, key] ∧
      (∃ e, head.call [dangling, key] = some e ∧ e.print = "f(x)(g(b, ...), .c)") ∧
      (∃ e, moved.call [key] = some e ∧ e.print = "f(x)(g(b, ...), .c)") ∧
      ∃ f a s rest, moved.call [key] = some (filtered f a false s) ∧ Peels f rest moved ∧
        a :: rest = [key] := by
  intro head dangling key chained moved
  have hhead : head.isCurried = false := rfl
  -- peeling does not read the stored spans, extending the chain does
  have hmoved : Peels moved [dangling] head := .node dangling _ (.none head)
  have hchained : Peels chained [dangling] head := .node dangling _ (.none head)
  have hmerged : chained.MergedChain := ⟨trivial, rfl⟩
  have htext : head.print ++ "(" ++ ", ".intercalate ([dangling, key].map print) ++ ")"
      = "f(x)(g(b, ...), .c)" := by
    decide +kernel
  obtain ⟨hpeel, -, hprint, hchain⟩ := call_peels_and_prints
  obtain ⟨hcall, -⟩ := hchain chained head [dangling] [key] hhead hchained (by simp)
  obtain ⟨-, hmovedText⟩ := hchain moved head [dangling] [key] hhead hmoved (by simp)
  have hheadText := hprint head [dangling, key] hhead (by simp)
  rw [htext] at hheadText
  rw [List.singleton_append, htext] at hmovedText
  exact ⟨hhead, hmoved, hmerged, hcall hmerged, hheadText, hmovedText,
    hpeel moved [key] (by simp)⟩

end Expr

end TagExpr
