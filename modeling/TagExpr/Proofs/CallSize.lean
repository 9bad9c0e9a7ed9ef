/-
TagExpr/Proofs/CallSize.lean

Sizes of expressions and of calls.

A filtered node has two sides, so an expression of depth `d` has fewer than `2 ^ d` nodes.  A call
adds one node for each argument.  Its nodes form a chain, in which the head is at the lower end and
an argument stands the higher the later it comes:

    call h [a₁, …, aₙ]       the head is n levels below the root,
                             the argument aᵢ is n - i + 1 levels below it.

The depth of the call is the greatest depth that is reached in this way.
-/
import Mathlib.Algebra.Ring.Nat
import Mathlib.Order.Bounds.Basic
import TagExpr.Expr.Basic

namespace TagExpr

namespace Expr

theorem nodeCount_lt_two_pow_depth (e : Expr) : e.nodeCount < 2 ^ e.depth := by
  induction e with
  | identifier => simp [nodeCount, depth]
  | implicitIterator => simp [nodeCount, depth]
  | access base key s ih =>
    rw [nodeCount, depth, Nat.add_comm 1 base.depth, Nat.pow_succ]
    omega
  | filtered filter argument curried s ihf iha =>
    -- both sides fit below the deeper one
    have hfilter : 2 ^ filter.depth ≤ 2 ^ max filter.depth argument.depth :=
      Nat.pow_le_pow_right Nat.two_pos (Nat.le_max_left _ _)
    have hargument : 2 ^ argument.depth ≤ 2 ^ max filter.depth argument.depth :=
      Nat.pow_le_pow_right Nat.two_pos (Nat.le_max_right _ _)
    rw [nodeCount, depth, Nat.add_comm 1 (max filter.depth argument.depth), Nat.pow_succ]
    omega

/-! ### Calls -/

theorem isSome_call {h : Expr} {args : List Expr} (hargs : args ≠ []) : (h.call args).isSome := by
  fun_induction call h args with
  | case1 h => exact absurd rfl hargs
  | case2 h a => rfl
  | case3 h a b rest ih => exact ih (List.cons_ne_nil b rest)

/-- **Nodes of a call**: those of the head and of the arguments, and one for each argument. -/
theorem nodeCount_call {h c : Expr} {args : List Expr} (hcall : h.call args = some c) :
    c.nodeCount = h.nodeCount + args.length + (args.map nodeCount).sum := by
  fun_induction call h args with
  | case1 h => cases hcall
  | case2 h a =>
    obtain rfl := Option.some.inj hcall
    simp only [mkFiltered, nodeCount, List.map_cons, List.map_nil, List.sum_cons, List.sum_nil,
      List.length_singleton]
    omega
  | case3 h a b rest ih =>
    rw [ih hcall]
    simp only [mkFiltered, nodeCount, List.map_cons, List.sum_cons, List.length_cons]
    omega

/-- The depths that the head and the arguments of a call reach, counted from its root. -/
def callDepths (h : Expr) (args : List Expr) : Set Nat :=
  {d | d = h.depth + args.length ∨ ∃ i a, args[i]? = some a ∧ d = a.depth + (args.length - i)}

theorem isGreatest_callDepths_nil (h : Expr) : IsGreatest (callDepths h []) h.depth := by
  constructor
  · exact .inl rfl
  · rintro d (rfl | ⟨i, a, ha, -⟩)
    · exact Nat.le_refl _
    · cases ha

/-- The first argument may as well be counted as a part of the head. -/
theorem isGreatest_callDepths_cons {h a : Expr} {rest : List Expr} {curried : Bool} {d : Nat}
    (hd : IsGreatest (callDepths (mkFiltered h a curried) rest) d) :
    IsGreatest (callDepths h (a :: rest)) d := by
  obtain ⟨hmem, hbound⟩ := hd
  have hhead : (mkFiltered h a curried).depth = 1 + max h.depth a.depth := rfl
  constructor
  · -- it is reached: on either side of the first node, or in a later argument
    rcases hmem with rfl | ⟨i, b, hb, rfl⟩
    · rw [hhead]
      rcases Nat.le_total h.depth a.depth with hle | hle
      · refine .inr ⟨0, a, rfl, ?_⟩
        rw [Nat.max_eq_right hle, List.length_cons]
        omega
      · refine .inl ?_
        rw [Nat.max_eq_left hle, List.length_cons]
        omega
    · refine .inr ⟨i + 1, b, hb, ?_⟩
      rw [List.length_cons, Nat.add_sub_add_right]
  · -- nothing reaches beyond it
    have hfirst : (mkFiltered h a curried).depth + rest.length ≤ d := hbound (.inl rfl)
    rw [hhead] at hfirst
    rintro k (rfl | ⟨i, b, hb, rfl⟩)
    · rw [List.length_cons]
      omega
    · cases i with
      | zero =>
        obtain rfl := Option.some.inj hb
        rw [List.length_cons]
        omega
      | succ i =>
        rw [List.length_cons, Nat.add_sub_add_right]
        exact hbound (.inr ⟨i, b, hb, rfl⟩)

/-- **Depth of a call**: the greatest that the head or an argument reaches. -/
theorem isGreatest_depth_call {h c : Expr} {args : List Expr} (hcall : h.call args = some c) :
    IsGreatest (callDepths h args) c.depth := by
  fun_induction call h args with
  | case1 h => cases hcall
  | case2 h a =>
    obtain rfl := Option.some.inj hcall
    exact isGreatest_callDepths_cons (isGreatest_callDepths_nil _)
  | case3 h a b rest ih => exact isGreatest_callDepths_cons (ih hcall)

end Expr

end TagExpr
