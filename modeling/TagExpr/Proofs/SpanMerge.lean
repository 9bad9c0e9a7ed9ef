/-
TagExpr/Proofs/SpanMerge.lean

Merging spans.

Merging is a commutative and associative operation on all spans, empty and reversed ones among
them, with the dummy span as its unit.  No two real spans merge into the dummy one.  So the
merge of a list of spans does not depend on how it is taken: it is

    dummy                               if all spans of the list are,
    (least start, greatest stop)        of those that are not, otherwise.
-/
import Mathlib.Order.Bounds.Basic
import TagExpr.Span

namespace TagExpr

namespace Span

variable {s t u : Span}

/-! ### Two spans -/

theorem eq_dummy_iff : s = dummy ↔ s.start.val = 0 ∧ s.stop.val = 0 := by
  constructor
  · rintro rfl
    exact ⟨rfl, rfl⟩
  · rintro ⟨hstart, hstop⟩
    exact Span.ext (BytePos.ext hstart) (BytePos.ext hstop)

/-- No real span becomes a dummy one by merging. -/
theorem merge_eq_dummy_iff : s.merge t = dummy ↔ s = dummy ∧ t = dummy := by
  constructor
  · intro h
    by_cases hs : s = dummy
    · rw [hs, dummy_merge] at h
      exact ⟨hs, h⟩
    by_cases ht : t = dummy
    · rw [ht, merge_dummy] at h
      exact ⟨h, ht⟩
    -- both stops are zero, and one of the starts is
    rw [merge_of_ne_dummy hs ht, eq_dummy_iff] at h
    rw [eq_dummy_iff] at hs ht
    simp only [BytePos.val_least, BytePos.val_greatest] at h
    omega
  · rintro ⟨rfl, rfl⟩
    exact dummy_merge dummy

theorem merge_ne_dummy (hs : s ≠ dummy) (t : Span) : s.merge t ≠ dummy :=
  fun h => hs (merge_eq_dummy_iff.mp h).1

theorem merge_comm (s t : Span) : s.merge t = t.merge s := by
  by_cases hs : s = dummy
  · rw [hs, dummy_merge, merge_dummy]
  by_cases ht : t = dummy
  · rw [ht, dummy_merge, merge_dummy]
  rw [merge_of_ne_dummy hs ht, merge_of_ne_dummy ht hs]
  apply Span.ext <;> apply BytePos.ext
  · rw [BytePos.val_least, BytePos.val_least, Nat.min_comm]
  · rw [BytePos.val_greatest, BytePos.val_greatest, Nat.max_comm]

theorem merge_assoc (s t u : Span) : (s.merge t).merge u = s.merge (t.merge u) := by
  by_cases hs : s = dummy
  · rw [hs, dummy_merge, dummy_merge]
  by_cases ht : t = dummy
  · rw [ht, dummy_merge, merge_dummy]
  by_cases hu : u = dummy
  · rw [hu, merge_dummy, merge_dummy]
  -- merging keeps spans real, so all four merges are by least and greatest
  rw [merge_of_ne_dummy (merge_ne_dummy hs t) hu, merge_of_ne_dummy hs (merge_ne_dummy ht u),
    merge_of_ne_dummy hs ht, merge_of_ne_dummy ht hu]
  apply Span.ext <;> apply BytePos.ext
  · simp only [BytePos.val_least, Nat.min_assoc]
  · simp only [BytePos.val_greatest, Nat.max_assoc]

/-! ### Lists of spans -/

/-- The merge of a list of spans. -/
def mergeAll (ss : List Span) : Span :=
  ss.foldr merge dummy

@[simp] theorem mergeAll_nil : mergeAll [] = dummy := rfl

theorem mergeAll_cons (s : Span) (ss : List Span) :
    mergeAll (s :: ss) = s.merge (mergeAll ss) := rfl

@[simp] theorem mergeAll_singleton (s : Span) : mergeAll [s] = s :=
  merge_dummy s

theorem mergeAll_append (ss ts : List Span) :
    mergeAll (ss ++ ts) = (mergeAll ss).merge (mergeAll ts) := by
  induction ss with
  | nil => rw [List.nil_append, mergeAll_nil, dummy_merge]
  | cons s ss ih => rw [List.cons_append, mergeAll_cons, mergeAll_cons, ih, merge_assoc]

/-- What holds of the spans of a list holds of their merge, if merging keeps it. -/
theorem mergeAll_induction {P : Span → Prop} (hdummy : P dummy)
    (hmerge : ∀ s t, P s → P t → P (s.merge t)) {ss : List Span} (h : ∀ s ∈ ss, P s) :
    P (mergeAll ss) := by
  induction ss with
  | nil => exact hdummy
  | cons s ss ih =>
    obtain ⟨hs, hss⟩ := List.forall_mem_cons.mp h
    exact hmerge _ _ hs (ih hss)

theorem mergeAll_eq_dummy_iff {ss : List Span} : mergeAll ss = dummy ↔ ∀ s ∈ ss, s = dummy := by
  induction ss with
  | nil => simp
  | cons s ss ih => rw [mergeAll_cons, merge_eq_dummy_iff, ih, List.forall_mem_cons]

/-! ### Least start and greatest stop -/

/-- The starts, or the stops, of the spans of a list that are not dummy. -/
def offsets (f : Span → BytePos) (ss : List Span) : Set Nat :=
  {i | ∃ s ∈ ss, s ≠ dummy ∧ (f s).val = i}

theorem offsets_subset (f : Span → BytePos) {ss ts : List Span} (h : ss ⊆ ts) :
    offsets f ss ⊆ offsets f ts := by
  rintro i ⟨s, hs, hreal, hi⟩
  exact ⟨s, h hs, hreal, hi⟩

theorem offsets_eq_empty (f : Span → BytePos) {ss : List Span} (h : ∀ s ∈ ss, s = dummy) :
    offsets f ss = ∅ := by
  rw [Set.eq_empty_iff_forall_notMem]
  rintro i ⟨s, hs, hreal, -⟩
  exact hreal (h s hs)

theorem offsets_cons_dummy (f : Span → BytePos) (ss : List Span) :
    offsets f (dummy :: ss) = offsets f ss := by
  ext i
  simp [offsets]

theorem offsets_cons (f : Span → BytePos) (hs : s ≠ dummy) (ss : List Span) :
    offsets f (s :: ss) = insert (f s).val (offsets f ss) := by
  ext i
  simp [offsets, hs, eq_comm]

/-- **The merge of a list of spans, one of them real, goes from the least start to the greatest
stop** of the real ones. -/
theorem bounds_mergeAll {ss : List Span} (h : mergeAll ss ≠ dummy) :
    IsLeast (offsets start ss) (mergeAll ss).start.val ∧
      IsGreatest (offsets stop ss) (mergeAll ss).stop.val := by
  induction ss with
  | nil => exact absurd mergeAll_nil h
  | cons s ss ih =>
    rw [mergeAll_cons] at h ⊢
    -- a dummy span adds no offset, and a real one adds its own
    by_cases hs : s = dummy
    · rw [hs, dummy_merge] at h ⊢
      rw [offsets_cons_dummy, offsets_cons_dummy]
      exact ih h
    rw [offsets_cons _ hs, offsets_cons _ hs]
    by_cases hss : mergeAll ss = dummy
    · rw [hss, merge_dummy, offsets_eq_empty _ (mergeAll_eq_dummy_iff.mp hss),
        offsets_eq_empty _ (mergeAll_eq_dummy_iff.mp hss), insert_empty_eq, insert_empty_eq]
      exact ⟨isLeast_singleton, isGreatest_singleton⟩
    · obtain ⟨hleast, hgreatest⟩ := ih hss
      rw [merge_of_ne_dummy hs hss, BytePos.val_least, BytePos.val_greatest]
      exact ⟨hleast.insert s.start.val, hgreatest.insert s.stop.val⟩

/-- The span lies within another one. -/
def Within (s t : Span) : Prop :=
  t.start.val ≤ s.start.val ∧ s.stop.val ≤ t.stop.val

/-- The merge of some spans of a list lies within the merge of all. -/
theorem mergeAll_within {ss ts : List Span} (hsub : ss ⊆ ts) (h : mergeAll ss ≠ dummy) :
    mergeAll ts ≠ dummy ∧ (mergeAll ss).Within (mergeAll ts) := by
  have hts : mergeAll ts ≠ dummy := by
    rw [ne_eq, mergeAll_eq_dummy_iff] at h ⊢
    exact fun hall => h fun s hs => hall s (hsub hs)
  obtain ⟨hleast, hgreatest⟩ := bounds_mergeAll h
  obtain ⟨hleast', hgreatest'⟩ := bounds_mergeAll hts
  exact ⟨hts, hleast'.2 (offsets_subset start hsub hleast.1),
    hgreatest'.2 (offsets_subset stop hsub hgreatest.1)⟩

end Span

end TagExpr
