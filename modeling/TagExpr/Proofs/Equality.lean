/-
TagExpr/Proofs/Equality.lean

Equality of values is symmetric and transitive, and reflexive where no NaN occurs.

A NaN may stand at any depth below sequences and mappings, and a value equals itself iff none
does (`HasNaN`).  What a cluster holds does not count, since clusters are told apart by their
identity alone.  Each law is one induction that runs through values, lists of values and
lists of entries side by side, as `equal` does.

Mappings are compared entry by entry in the order of their keys.  That is the same as to compare
them as finite maps, which looks one-sided: as many entries, and every entry of the first is
found in the second with an equal value (`equal_ofEntries_iff`).
-/
import TagExpr.Proofs.Entries
import TagExpr.Proofs.FloatEquality
import TagExpr.Value.Equality

namespace TagExpr

namespace Value

variable {α : Type}

/-- A NaN occurs in a value: as the value itself, or below sequences and mappings. -/
inductive HasNaN : Value α → Prop
  | scalar {s : Scalar} (h : s.isNaN = true) : HasNaN (.scalar s)
  | item {x : Value α} {xs : List (Value α)} (hx : x ∈ xs) (h : HasNaN x) : HasNaN (.sequence xs)
  | entry {e : String × Value α} {es : List (String × Value α)} (he : e ∈ es) (h : HasNaN e.2) :
    HasNaN (.mapping es)

/-! ### Symmetry -/

mutual

theorem equal_symm {a b : Value α} (h : a.equal b = true) : b.equal a = true := by
  match a, b, h with
  | .none, .none, _ => rfl
  | .scalar s, .scalar t, h => exact (Scalar.equal_comm t s).trans h
  | .sequence xs, .sequence ys, h => exact equalItems_symm h
  | .mapping xs, .mapping ys, h => exact equalEntries_symm h
  | .cluster c, .cluster d, h =>
    simp only [equal, decide_eq_true_eq] at h ⊢
    exact h.symm

theorem equalItems_symm {xs ys : List (Value α)} (h : equalItems xs ys = true) :
    equalItems ys xs = true := by
  match xs, ys, h with
  | [], [], _ => rfl
  | x :: xs, y :: ys, h =>
    simp only [equalItems, Bool.and_eq_true] at h ⊢
    exact ⟨equal_symm h.1, equalItems_symm h.2⟩

theorem equalEntries_symm {xs ys : List (String × Value α)} (h : equalEntries xs ys = true) :
    equalEntries ys xs = true := by
  match xs, ys, h with
  | [], [], _ => rfl
  | (k, x) :: xs, (l, y) :: ys, h =>
    simp only [equalEntries, Bool.and_eq_true, decide_eq_true_eq] at h ⊢
    obtain ⟨hkl, hxy, hrest⟩ := h
    exact ⟨hkl.symm, equal_symm hxy, equalEntries_symm hrest⟩

end

theorem equal_comm (a b : Value α) : a.equal b = b.equal a :=
  Bool.eq_iff_iff.mpr ⟨equal_symm, equal_symm⟩

/-! ### Transitivity -/

mutual

theorem equal_trans {a b c : Value α} (hab : a.equal b = true) (hbc : b.equal c = true) :
    a.equal c = true := by
  match a, b, c, hab, hbc with
  | .none, .none, .none, _, _ => rfl
  | .scalar s, .scalar t, .scalar u, hst, htu => exact Scalar.equal_trans hst htu
  | .sequence xs, .sequence ys, .sequence zs, hxy, hyz => exact equalItems_trans hxy hyz
  | .mapping xs, .mapping ys, .mapping zs, hxy, hyz => exact equalEntries_trans hxy hyz
  | .cluster c, .cluster d, .cluster e, hcd, hde =>
    simp only [equal, decide_eq_true_eq] at hcd hde ⊢
    exact hcd.trans hde

theorem equalItems_trans {xs ys zs : List (Value α)} (hxy : equalItems xs ys = true)
    (hyz : equalItems ys zs = true) : equalItems xs zs = true := by
  match xs, ys, zs, hxy, hyz with
  | [], [], [], _, _ => rfl
  | x :: xs, y :: ys, z :: zs, hxy, hyz =>
    simp only [equalItems, Bool.and_eq_true] at hxy hyz ⊢
    exact ⟨equal_trans hxy.1 hyz.1, equalItems_trans hxy.2 hyz.2⟩

theorem equalEntries_trans {xs ys zs : List (String × Value α)} (hxy : equalEntries xs ys = true)
    (hyz : equalEntries ys zs = true) : equalEntries xs zs = true := by
  match xs, ys, zs, hxy, hyz with
  | [], [], [], _, _ => rfl
  | (k, x) :: xs, (l, y) :: ys, (m, z) :: zs, hxy, hyz =>
    simp only [equalEntries, Bool.and_eq_true, decide_eq_true_eq] at hxy hyz ⊢
    obtain ⟨hkl, hxy, hrest⟩ := hxy
    obtain ⟨hlm, hyz, hrest'⟩ := hyz
    exact ⟨hkl.trans hlm, equal_trans hxy hyz, equalEntries_trans hrest hrest'⟩

end

/-! ### Reflexivity -/

mutual

theorem equal_self_iff (a : Value α) : a.equal a = true ↔ ¬ a.HasNaN := by
  match a with
  | .none => exact ⟨fun _ h => (nomatch h), fun _ => rfl⟩
  | .scalar s =>
    rw [equal, Scalar.equal_self, Bool.not_eq_true', Bool.eq_false_iff]
    exact not_congr ⟨.scalar, fun | .scalar h => h⟩
  | .sequence xs =>
    rw [equal, equalItems_self_iff]
    constructor
    · rintro h (_ | hx | _)
      next hn => exact h _ hx hn
    · exact fun h x hx hn => h (.item hx hn)
  | .mapping es =>
    rw [equal, equalEntries_self_iff]
    constructor
    · rintro h (_ | _ | he)
      next hn => exact h _ he hn
    · exact fun h e he hn => h (.entry he hn)
  | .cluster c => exact ⟨fun _ h => (nomatch h), fun _ => decide_eq_true rfl⟩

theorem equalItems_self_iff (xs : List (Value α)) :
    equalItems xs xs = true ↔ ∀ x ∈ xs, ¬ x.HasNaN := by
  match xs with
  | [] => simp [equalItems]
  | x :: xs =>
    rw [equalItems, Bool.and_eq_true, equal_self_iff x, equalItems_self_iff xs,
      List.forall_mem_cons]

theorem equalEntries_self_iff (es : List (String × Value α)) :
    equalEntries es es = true ↔ ∀ e ∈ es, ¬ e.2.HasNaN := by
  match es with
  | [] => simp [equalEntries]
  | (k, x) :: es =>
    simp only [equalEntries, decide_true, Bool.true_and, Bool.and_eq_true, equal_self_iff x,
      equalEntries_self_iff es, List.forall_mem_cons]

end

/-! ### Mappings as finite maps -/

open Entries

/-- Entries that are equal side by side have the same keys. -/
theorem keys_eq_of_equalEntries {xs ys : List (String × Value α)}
    (h : equalEntries xs ys = true) : keys xs = keys ys := by
  match xs, ys, h with
  | [], [], _ => rfl
  | (k, x) :: xs, (l, y) :: ys, h =>
    simp only [equalEntries, Bool.and_eq_true, decide_eq_true_eq] at h
    rw [keys_cons, keys_cons, h.1, keys_eq_of_equalEntries h.2.2]

/-- Every entry of the first list is found in the second, with an equal value. -/
def EachFound (xs ys : List (String × Value α)) : Prop :=
  ∀ k v, lookup k xs = some v → ∃ w, lookup k ys = some w ∧ v.equal w = true

theorem eachFound_of_equalEntries {xs ys : List (String × Value α)}
    (h : equalEntries xs ys = true) : EachFound xs ys := by
  match xs, ys, h with
  | [], [], _ => exact fun k v hk => nomatch hk
  | (l, x) :: xs, (m, y) :: ys, h =>
    simp only [equalEntries, Bool.and_eq_true, decide_eq_true_eq] at h
    obtain ⟨rfl, hxy, hrest⟩ := h
    intro k v hk
    unfold lookup at hk ⊢
    split at hk
    · -- the first entry of both
      next hkl =>
      cases hk
      exact ⟨y, if_pos hkl, hxy⟩
    · -- an entry further on in both
      next hkl =>
      obtain ⟨w, hw, hvw⟩ := eachFound_of_equalEntries hrest k v hk
      exact ⟨w, by rwa [if_neg hkl], hvw⟩

/-- With the same keys, what is found is what stands at the same place. -/
theorem equalEntries_of_eachFound {xs ys : List (String × Value α)} (hx : Sorted xs)
    (hkeys : keys xs = keys ys) (h : EachFound xs ys) : equalEntries xs ys = true := by
  induction xs generalizing ys with
  | nil =>
    cases ys with
    | nil => rfl
    | cons e ys => cases hkeys
  | cons e xs ih =>
    obtain ⟨k, x⟩ := e
    cases ys with
    | nil => cases hkeys
    | cons e' ys =>
      obtain ⟨l, y⟩ := e'
      simp only [keys_cons, List.cons.injEq] at hkeys
      obtain ⟨rfl, hkeys⟩ := hkeys
      obtain ⟨hhead, hrest⟩ := List.pairwise_cons.mp hx
      simp only [equalEntries, decide_true, Bool.true_and, Bool.and_eq_true]
      constructor
      · obtain ⟨w, hw, hxw⟩ := h k x (if_pos rfl)
        rw [lookup, if_pos rfl, Option.some.injEq] at hw
        exact hw ▸ hxw
      · refine ih hrest hkeys fun m v hm => ?_
        -- a key of the rest is greater than the first, so the first entry does not hide it
        have hmk : m ≠ k := (Std.ne_of_lt (hhead _ (mem_of_lookup hm))).symm
        obtain ⟨w, hw, hvw⟩ := h m v (by rwa [lookup, if_neg hmk])
        exact ⟨w, by rwa [lookup, if_neg hmk] at hw, hvw⟩

theorem mem_keys_of_lookup {k : String} {v : Value α} {es : List (String × Value α)}
    (h : lookup k es = some v) : k ∈ keys es :=
  List.mem_map.mpr ⟨(k, v), mem_of_lookup h, rfl⟩

/-- Sorted entries are equal side by side iff there are as many and each is found. -/
theorem equalEntries_iff {xs ys : List (String × Value α)} (hx : Sorted xs) (hy : Sorted ys) :
    equalEntries xs ys = true ↔ xs.length = ys.length ∧ EachFound xs ys := by
  constructor
  · intro h
    have hlen := congrArg List.length (keys_eq_of_equalEntries h)
    simp only [keys, List.length_map] at hlen
    exact ⟨hlen, eachFound_of_equalEntries h⟩
  · rintro ⟨hlen, h⟩
    refine equalEntries_of_eachFound hx (keys_eq_of_subset hx hy hlen fun k hk => ?_) h
    obtain ⟨e, he, rfl⟩ := List.mem_map.mp hk
    obtain ⟨w, hw, -⟩ := h e.1 e.2 (lookup_of_mem hx he)
    exact mem_keys_of_lookup hw

/-- Two mappings are equal as values iff they are equal as finite maps. -/
theorem equal_ofEntries_iff (es fs : List (String × Value α)) :
    (ofEntries es).equal (ofEntries fs) = true ↔
      (ofList es).length = (ofList fs).length ∧ EachFound (ofList es) (ofList fs) :=
  equalEntries_iff (sorted_ofList es) (sorted_ofList fs)

/-! ### The laws together -/

/-- **Equality of values is symmetric and transitive, and a value equals itself iff no NaN occurs in
it.**  Clusters are equal iff they are the same, floating-point numbers iff they stand for the same
number, an integer never equals a floating-point number, and mappings are equal as finite
maps. -/
theorem equal_symm_trans_and_self_iff (α : Type) :
    (∀ a b : Value α, a.equal b = b.equal a) ∧
    (∀ a b c : Value α, a.equal b = true → b.equal c = true → a.equal c = true) ∧
    (∀ a : Value α, a.equal a = true ↔ ¬ a.HasNaN) ∧
    (∀ c d : Cluster α (Value α),
      (Value.cluster c).equal (.cluster d) = true ↔ c.identity = d.identity) ∧
    (∀ x y : Binary64, (float x : Value α).equal (float y) = true ↔
      ∃ r, x.number? = some r ∧ y.number? = some r) ∧
    (∀ (n : Int64) (x : Binary64), (int n : Value α).equal (float x) = false) ∧
    ∀ es fs : List (String × Value α), (ofEntries es).equal (ofEntries fs) = true ↔
      (ofList es).length = (ofList fs).length ∧ EachFound (ofList es) (ofList fs) := by
  refine ⟨equal_comm, fun a b c => equal_trans, equal_self_iff, ?_, ?_, ?_, equal_ofEntries_iff⟩
  · intro c d
    rw [equal, decide_eq_true_eq]
  · exact Binary64.equal_iff_number
  · intro n x
    rfl

/-- Zeros of both signs inside a sequence, where a NaN beside them is in the way. -/
theorem equal_symm_trans_and_self_iff_zeros :
    let zero : Value Unit := float ⟨0⟩
    let minusZero : Value Unit := float ⟨0x8000000000000000⟩
    let nan : Value Unit := float ⟨0x7FF8000000000000⟩
    (sequence [zero]).equal (sequence [minusZero]) = true ∧
      (sequence [minusZero]).equal (sequence [zero]) = true ∧
      (sequence [zero]).equal (sequence [zero]) = true ∧
      (sequence [zero, nan]).equal (sequence [zero, nan]) = false := by
  intro zero minusZero nan
  have hzeros : (sequence [zero]).equal (sequence [minusZero]) = true := by decide
  obtain ⟨comm, trans, self, -⟩ := equal_symm_trans_and_self_iff Unit
  have hback : (sequence [minusZero]).equal (sequence [zero]) = true := by
    rw [comm]
    exact hzeros
  refine ⟨hzeros, hback, trans _ _ _ hzeros hback, ?_⟩
  -- the NaN inside the sequence keeps it from being equal to itself
  rw [Bool.eq_false_iff, ne_eq, self, not_not]
  exact .item (List.mem_cons_of_mem _ (List.mem_singleton_self _)) (.scalar (by decide))

end Value

end TagExpr
