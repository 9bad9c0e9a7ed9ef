/-
TagExpr/Span.lean

Byte positions and spans of a template source.

A position is a 32-bit byte offset; a larger offset is clamped to the greatest one.  A span
is a pair of positions, and every pair is a span: it may be empty or reversed.  The pair
`(0, 0)` is the dummy span of expressions that were built by hand.  Merging covers both
spans, and a dummy span is its unit:

    dummy.merge s = s        s.merge dummy = s
    (s.merge t).start = min s.start t.start,  (s.merge t).stop = max s.stop t.stop
                                                          for s and t other than dummy.
-/
import TagExpr.Text.ByteSlice

namespace TagExpr

/-- The greatest byte position. -/
def maxPosition : Nat := 4294967295

/-- A byte offset of at most 32 bits. -/
@[ext] structure BytePos where
  val : Nat
  val_le : val ≤ maxPosition
  deriving DecidableEq

namespace BytePos

/-- The position of an offset; one beyond the greatest position is clamped to it. -/
def ofNat (n : Nat) : BytePos :=
  ⟨min n maxPosition, Nat.min_le_right _ _⟩

/-- The first position. -/
def zero : BytePos := ofNat 0

/-- The position `n` bytes further on, if there is one. -/
def offset? (p : BytePos) (n : Nat) : Option BytePos :=
  if h : p.val + n ≤ maxPosition then some ⟨p.val + n, h⟩ else none

/-- Order of two positions. -/
def order (p q : BytePos) : Ordering :=
  compare p.val q.val

/-- The lesser of two positions. -/
def least (p q : BytePos) : BytePos :=
  if q.val < p.val then q else p

/-- The greater of two positions. -/
def greatest (p q : BytePos) : BytePos :=
  if q.val < p.val then p else q

/-- The inspected form, `BytePos(7)`. -/
def inspect (p : BytePos) : String :=
  "BytePos(" ++ toString p.val ++ ")"

@[simp] theorem val_ofNat (n : Nat) : (ofNat n).val = min n maxPosition := rfl

@[simp] theorem val_least (p q : BytePos) : (p.least q).val = min p.val q.val := by
  unfold least
  split <;> omega

@[simp] theorem val_greatest (p q : BytePos) : (p.greatest q).val = max p.val q.val := by
  unfold greatest
  split <;> omega

end BytePos

/-- A half-open range of byte positions. -/
@[ext] structure Span where
  start : BytePos
  stop : BytePos
  deriving DecidableEq

namespace Span

/-- The span of expressions that come from no source. -/
def dummy : Span :=
  ⟨BytePos.zero, BytePos.zero⟩

/-- The span of two offsets, each clamped. -/
def ofNat (start stop : Nat) : Span :=
  ⟨BytePos.ofNat start, BytePos.ofNat stop⟩

/-- The span covers nothing of any source. -/
def isDummy (s : Span) : Bool :=
  s = dummy

/-- The least span that covers both; a dummy span adds nothing. -/
def merge (s t : Span) : Span :=
  if s = dummy then t
  else if t = dummy then s
  else ⟨s.start.least t.start, s.stop.greatest t.stop⟩

/-- Length in bytes; a reversed span has none. -/
def length (s : Span) : Nat :=
  s.stop.val - s.start.val

/-- The span has no bytes. -/
def isEmpty (s : Span) : Bool :=
  s.stop.val ≤ s.start.val

/-- The part of `source` that the span covers, if its ends are character boundaries. -/
def text? (s : Span) (source : String) : Option String :=
  byteSlice? source s.start.val s.stop.val

/-- The inspected form, `3..7`. -/
def inspect (s : Span) : String :=
  toString s.start.val ++ ".." ++ toString s.stop.val

@[simp] theorem dummy_merge (s : Span) : dummy.merge s = s := by
  simp [merge]

@[simp] theorem merge_dummy (s : Span) : s.merge dummy = s := by
  unfold merge
  split
  · next h => exact h.symm
  · simp

theorem merge_of_ne_dummy {s t : Span} (hs : s ≠ dummy) (ht : t ≠ dummy) :
    s.merge t = ⟨s.start.least t.start, s.stop.greatest t.stop⟩ := by
  simp [merge, hs, ht]

end Span

end TagExpr
