/-
TagExpr/Proofs/MergeOrders.lean

Spans merged in any order.

Merging is commutative, associative and idempotent on all spans, with the dummy span as its unit.
So the spans of a list can be merged in any order and two at a time in any way: a bracketing
writes down such a way, and its result is the merge of the list,

    b.result = mergeAll b.spans = mergeAll ss       for every order ss of the spans of b.

Clamping keeps the order of offsets and makes no dummy span of any other two, so it
commutes with merging:

    mergeAll (the spans of pairs) = the span of (least start, greatest stop)

over the pairs other than (0, 0), whether these are clamped before or after.
-/
import Mathlib.Data.Finset.Max
import Mathlib.Data.List.Fold
import Mathlib.Data.List.Perm.Basic
import Mathlib.Order.Bounds.Image
import TagExpr.Proofs.SpanMerge

namespace TagExpr

namespace Span

/-! ### Laws of the operation -/

theorem merge_self (s : Span) : s.merge s = s := by
  by_cases hs : s = dummy
  · rw [hs, dummy_merge]
  rw [merge_of_ne_dummy hs hs]
  apply Span.ext <;> apply BytePos.ext
  · rw [BytePos.val_least, Nat.min_self]
  · rw [BytePos.val_greatest, Nat.max_self]

instance : Std.Commutative merge := ⟨merge_comm⟩

instance : Std.Associative merge := ⟨merge_assoc⟩

/-! ### Bracketings -/

/-- A way to merge spans two at a time. -/
inductive Bracketing where
  | span (s : Span)
  | merge (left right : Bracketing)

/-- The spans that are merged, from left to right. -/
def Bracketing.spans : Bracketing → List Span
  | span s => [s]
  | merge left right => left.spans ++ right.spans

/-- What comes out. -/
def Bracketing.result : Bracketing → Span
  | span s => s
  | merge left right => left.result.merge right.result

theorem Bracketing.result_eq (b : Bracketing) : b.result = mergeAll b.spans := by
  induction b with
  | span s => exact (mergeAll_singleton s).symm
  | merge left right ihl ihr => rw [result, spans, mergeAll_append, ihl, ihr]

theorem mergeAll_eq_of_perm {ss ts : List Span} (h : ss.Perm ts) : mergeAll ss = mergeAll ts :=
  h.foldr_eq dummy

theorem foldl_merge (ss : List Span) : ss.foldl merge dummy = mergeAll ss :=
  List.foldl_eq_foldr

/-! ### Length -/

/-- A merge is as long as the longest of its spans, at least. -/
theorem length_le_length_mergeAll {s : Span} {ss : List Span} (hs : s ∈ ss) :
    s.length ≤ (mergeAll ss).length := by
  by_cases hreal : s = dummy
  · rw [hreal]
    exact Nat.zero_le _
  · rw [← mergeAll_singleton s] at hreal
    obtain ⟨-, hwithin⟩ := mergeAll_within (List.cons_subset.mpr ⟨hs, List.nil_subset ss⟩) hreal
    rw [mergeAll_singleton] at hwithin
    obtain ⟨hstart, hstop⟩ := hwithin
    unfold length
    omega

/-! ### Clamped offsets -/

/-- The span of a pair of offsets. -/
def ofPair (p : Nat × Nat) : Span :=
  ofNat p.1 p.2

/-- Only the dummy pair is clamped to the dummy span. -/
theorem ofPair_eq_dummy_iff {p : Nat × Nat} : ofPair p = dummy ↔ p = (0, 0) := by
  obtain ⟨a, b⟩ := p
  rw [eq_dummy_iff, Prod.mk.injEq]
  simp only [ofPair, ofNat, BytePos.val_ofNat, maxPosition]
  omega

theorem monotone_clamp : Monotone fun n => (BytePos.ofNat n).val :=
  fun _ _ h => min_le_min_right maxPosition h

/-- The starts, or the stops, of real spans of pairs are those of real pairs, clamped. -/
theorem offsets_map_ofPair {f : Span → BytePos} {g : Nat × Nat → Nat}
    (hfg : ∀ p, f (ofPair p) = BytePos.ofNat (g p)) (ps : List (Nat × Nat)) :
    offsets f (ps.map ofPair)
      = (fun n => (BytePos.ofNat n).val) '' {i | ∃ p ∈ ps, p ≠ (0, 0) ∧ g p = i} := by
  ext i
  constructor
  · rintro ⟨s, hs, hreal, rfl⟩
    obtain ⟨p, hp, rfl⟩ := List.mem_map.mp hs
    exact ⟨g p, ⟨p, hp, mt ofPair_eq_dummy_iff.mpr hreal, rfl⟩, by rw [hfg]⟩
  · rintro ⟨-, ⟨p, hp, hreal, rfl⟩, rfl⟩
    exact ⟨ofPair p, List.mem_map_of_mem hp, mt ofPair_eq_dummy_iff.mp hreal, by rw [hfg]⟩

/-- **Clamping commutes with merging.** -/
theorem mergeAll_map_ofPair {ps : List (Nat × Nat)} {a b : Nat}
    (ha : IsLeast {i | ∃ p ∈ ps, p ≠ (0, 0) ∧ p.1 = i} a)
    (hb : IsGreatest {i | ∃ p ∈ ps, p ≠ (0, 0) ∧ p.2 = i} b) :
    mergeAll (ps.map ofPair) = ofNat a b := by
  have hreal : mergeAll (ps.map ofPair) ≠ dummy := by
    obtain ⟨p, hp, hne, -⟩ := ha.1
    rw [ne_eq, mergeAll_eq_dummy_iff]
    exact fun hall => hne (ofPair_eq_dummy_iff.mp (hall _ (List.mem_map_of_mem hp)))
  obtain ⟨hleast, hgreatest⟩ := bounds_mergeAll hreal
  -- a monotone function takes the least offset to the least, and the greatest to the greatest
  rw [offsets_map_ofPair (fun _ => rfl)] at hleast hgreatest
  apply Span.ext <;> apply BytePos.ext
  · exact hleast.unique (monotone_clamp.map_isLeast ha)
  · exact hgreatest.unique (monotone_clamp.map_isGreatest hb)

/-- Some pair is real, so there are a least start and a greatest stop. -/
theorem exists_bounds_of_pairs {ps : List (Nat × Nat)} (h : ∃ p ∈ ps, p ≠ (0, 0)) :
    ∃ a b, IsLeast {i | ∃ p ∈ ps, p ≠ (0, 0) ∧ p.1 = i} a ∧
      IsGreatest {i | ∃ p ∈ ps, p ≠ (0, 0) ∧ p.2 = i} b := by
  -- the real pairs as a finite set, to take extrema over
  obtain ⟨real, hmem⟩ : ∃ real : Finset (Nat × Nat), ∀ p, p ∈ real ↔ p ∈ ps ∧ p ≠ (0, 0) :=
    ⟨(ps.filter (· ≠ (0, 0))).toFinset, by simp⟩
  have hnonempty : real.Nonempty := by
    obtain ⟨p, hp⟩ := h
    exact ⟨p, (hmem p).mpr hp⟩
  obtain ⟨p, hp, hleast⟩ := real.exists_min_image Prod.fst hnonempty
  obtain ⟨q, hq, hgreatest⟩ := real.exists_max_image Prod.snd hnonempty
  obtain ⟨hp, hpne⟩ := (hmem p).mp hp
  obtain ⟨hq, hqne⟩ := (hmem q).mp hq
  refine ⟨p.1, q.2, ⟨⟨p, hp, hpne, rfl⟩, ?_⟩, ⟨⟨q, hq, hqne, rfl⟩, ?_⟩⟩
  · rintro i ⟨r, hr, hrne, rfl⟩
    exact hleast r ((hmem r).mpr ⟨hr, hrne⟩)
  · rintro i ⟨r, hr, hrne, rfl⟩
    exact hgreatest r ((hmem r).mpr ⟨hr, hrne⟩)

/-! ### The laws together -/

/-- **Spans can be merged in any order.**  On all spans, merging is commutative, associative and
idempotent, with the dummy span as its unit.  The spans of a list, taken in any order and two at
a time in any way, merge into one span: the dummy one if all of them are, otherwise the real one
from the least start to the greatest stop of those that are not.  It is at least as long as each of
them.  The spans of pairs of offsets merge into the span of the least start and the greatest
stop of all pairs other than `(0, 0)`, clamped. -/
theorem merge_in_any_order :
    (∀ s t u : Span, s.merge t = t.merge s ∧ (s.merge t).merge u = s.merge (t.merge u) ∧
      s.merge s = s ∧ dummy.merge s = s ∧ s.merge dummy = s) ∧
    (∀ ss : List Span,
      (∀ ts : List Span, ts.Perm ss →
        ts.foldl merge dummy = mergeAll ss ∧ ts.foldr merge dummy = mergeAll ss) ∧
      (∀ b : Bracketing, b.spans.Perm ss → b.result = mergeAll ss) ∧
      ((∀ s ∈ ss, s = dummy) → mergeAll ss = dummy) ∧
      ((∃ s ∈ ss, s ≠ dummy) → mergeAll ss ≠ dummy ∧
        IsLeast {i | ∃ s ∈ ss, s ≠ dummy ∧ s.start.val = i} (mergeAll ss).start.val ∧
        IsGreatest {i | ∃ s ∈ ss, s ≠ dummy ∧ s.stop.val = i} (mergeAll ss).stop.val) ∧
      ∀ s ∈ ss, s.length ≤ (mergeAll ss).length) ∧
    ∀ ps : List (Nat × Nat),
      ((∀ p ∈ ps, p = (0, 0)) → mergeAll (ps.map fun p => ofNat p.1 p.2) = dummy) ∧
      ((∃ p ∈ ps, p ≠ (0, 0)) → ∃ a b,
        IsLeast {i | ∃ p ∈ ps, p ≠ (0, 0) ∧ p.1 = i} a ∧
        IsGreatest {i | ∃ p ∈ ps, p ≠ (0, 0) ∧ p.2 = i} b ∧
        mergeAll (ps.map fun p => ofNat p.1 p.2) = ofNat a b) := by
  refine ⟨?_, ?_, ?_⟩
  · -- two spans or three
    intro s t u
    exact ⟨merge_comm s t, merge_assoc s t u, merge_self s, dummy_merge s, merge_dummy s⟩
  · -- a list of spans, in the order of the list or of a bracketing
    intro ss
    refine ⟨?_, ?_, mergeAll_eq_dummy_iff.mpr, ?_, fun s => length_le_length_mergeAll⟩
    · intro ts hts
      rw [foldl_merge, mergeAll_eq_of_perm hts]
      exact ⟨rfl, mergeAll_eq_of_perm hts⟩
    · intro b hb
      rw [b.result_eq, mergeAll_eq_of_perm hb]
    · rintro ⟨s, hs, hreal⟩
      have hmerge : mergeAll ss ≠ dummy := fun h => hreal (mergeAll_eq_dummy_iff.mp h s hs)
      exact ⟨hmerge, bounds_mergeAll hmerge⟩
  · -- pairs of offsets
    intro ps
    constructor
    · intro h
      rw [mergeAll_eq_dummy_iff, List.forall_mem_map]
      exact fun p hp => ofPair_eq_dummy_iff.mpr (h p hp)
    · intro h
      obtain ⟨a, b, ha, hb⟩ := exists_bounds_of_pairs h
      exact ⟨a, b, ha, hb, mergeAll_map_ofPair ha hb⟩

/-- Two reversed spans, an empty one and a dummy one, from the back and from the middle; and offsets
beyond the greatest position beside a pair that is half zero. -/
theorem merge_in_any_order_reversed :
    let ss := [ofNat 9 4, dummy, ofNat 7 7, ofNat 8 6]
    let b : Bracketing := .merge (.merge (.span (ofNat 8 6)) (.span dummy))
      (.merge (.span (ofNat 7 7)) (.span (ofNat 9 4)))
    let ps := [(5000000000, 3), (0, 0), (0, 4294967296)]
    b.spans.Perm ss ∧ b.result = ofNat 7 7 ∧ ss.reverse.foldl merge dummy = ofNat 7 7 ∧
      ofNat 8 6 ≠ dummy ∧ IsLeast {i | ∃ s ∈ ss, s ≠ dummy ∧ s.start.val = i} 7 ∧
      mergeAll (ps.map fun p => ofNat p.1 p.2) = ofNat 0 4294967296 := by
  intro ss b ps
  have hmerge : mergeAll ss = ofNat 7 7 := by decide
  have hperm : b.spans.Perm ss := by decide
  have hreal : ofNat 8 6 ≠ dummy := by decide
  obtain ⟨-, hall, hpairs⟩ := merge_in_any_order
  obtain ⟨hfold, hbracketing, -, hbounds, -⟩ := hall ss
  obtain ⟨-, hleast, -⟩ := hbounds ⟨ofNat 8 6, by decide, hreal⟩
  obtain ⟨a, c, ha, hc, hclamped⟩ := (hpairs ps).2 ⟨(5000000000, 3), by decide, by decide⟩
  -- the dummy pair does not count, the half zero one does
  have hstart : a = 0 :=
    Nat.le_zero.mp (ha.2 ⟨(0, 4294967296), by decide, by decide, rfl⟩)
  have hstop : 4294967296 ≤ c := hc.2 ⟨(0, 4294967296), by decide, by decide, rfl⟩
  have hstop' : c ≤ 4294967296 := by
    have hall : ∀ p ∈ ps, p.2 ≤ 4294967296 := by decide
    obtain ⟨⟨p, hp, -, rfl⟩, -⟩ := hc
    exact hall p hp
  obtain rfl := Nat.le_antisymm hstop' hstop
  subst hstart
  rw [hmerge] at hbracketing hfold hleast
  exact ⟨hperm, hbracketing b hperm, (hfold _ (List.reverse_perm ss)).1, hreal, hleast, hclamped⟩

end Span

end TagExpr
