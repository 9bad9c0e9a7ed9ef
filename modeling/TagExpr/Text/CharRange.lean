/-
TagExpr/Text/CharRange.lean

Classes of characters given by ranges of code points.

A property of characters that a standard lists by code point is a table of inclusive
ranges in increasing order.  Reading the table stops at the first range that begins
above the code point, so a character before every range costs one comparison.  Nothing is
missed because the ranges are in order, which a table carries with it:

    t.has c = true  ↔  some (lo, hi) ∈ t.ranges has lo ≤ c ≤ hi.
-/

namespace TagExpr

/-- Membership of a code point in a list of inclusive ranges in increasing order. -/
def inRanges (n : Nat) : List (Nat × Nat) → Bool
  | [] => false
  | (lo, hi) :: rest => if n < lo then false else n ≤ hi || inRanges n rest

/-- Ranges above `least`, one above the other. -/
def inOrder (least : Nat) : List (Nat × Nat) → Bool
  | [] => true
  | (lo, hi) :: rest => least ≤ lo && lo ≤ hi && inOrder (hi + 1) rest

/-- Inclusive ranges of code points, in increasing order. -/
structure CharTable where
  ranges : List (Nat × Nat)
  ordered : inOrder 0 ranges = true

/-- The code point of the character is in one of the ranges. -/
def CharTable.has (t : CharTable) (c : Char) : Bool :=
  inRanges c.toNat t.ranges

theorem exists_mem_of_inRanges {n : Nat} {ranges : List (Nat × Nat)}
    (h : inRanges n ranges = true) : ∃ r ∈ ranges, r.1 ≤ n ∧ n ≤ r.2 := by
  induction ranges with
  | nil => simp [inRanges] at h
  | cons r rest ih =>
    obtain ⟨lo, hi⟩ := r
    by_cases hlo : n < lo
    · simp [inRanges, hlo] at h
    · by_cases hhi : n ≤ hi
      · exact ⟨(lo, hi), by simp, by omega, hhi⟩
      · obtain ⟨r, hr, hb⟩ := ih (by simpa [inRanges, hlo, hhi] using h)
        exact ⟨r, by simp [hr], hb⟩

theorem le_of_mem_of_inOrder {least : Nat} {ranges : List (Nat × Nat)} {r : Nat × Nat}
    (h : inOrder least ranges = true) (hr : r ∈ ranges) : least ≤ r.1 := by
  induction ranges generalizing least with
  | nil => simp at hr
  | cons s rest ih =>
    obtain ⟨lo, hi⟩ := s
    simp only [inOrder, Bool.and_eq_true, decide_eq_true_eq] at h
    obtain ⟨⟨hlo, hhi⟩, hrest⟩ := h
    rcases List.mem_cons.1 hr with rfl | hr
    · exact hlo
    · have := ih hrest hr
      omega

/-- Of ranges in order, a code point is in one iff reading the list finds it. -/
theorem inRanges_iff {n least : Nat} {ranges : List (Nat × Nat)}
    (h : inOrder least ranges = true) :
    inRanges n ranges = true ↔ ∃ r ∈ ranges, r.1 ≤ n ∧ n ≤ r.2 := by
  refine ⟨exists_mem_of_inRanges, ?_⟩
  rintro ⟨r, hr, hlo, hhi⟩
  induction ranges generalizing least with
  | nil => simp at hr
  | cons s rest ih =>
    obtain ⟨lo, hi⟩ := s
    simp only [inOrder, Bool.and_eq_true, decide_eq_true_eq] at h
    obtain ⟨⟨-, hord⟩, hrest⟩ := h
    rcases List.mem_cons.1 hr with rfl | hr
    · simp only at hlo hhi
      simp [inRanges, hhi, Nat.not_lt.2 hlo]
    · have hmem := le_of_mem_of_inOrder hrest hr
      have hn : ¬ n < lo := by omega
      simp [inRanges, hn, ih hrest hr]

/-- **A table has the characters of its ranges**, all of them and no others. -/
theorem CharTable.has_iff {t : CharTable} {c : Char} :
    t.has c = true ↔ ∃ r ∈ t.ranges, r.1 ≤ c.toNat ∧ c.toNat ≤ r.2 :=
  inRanges_iff t.ordered

end TagExpr
