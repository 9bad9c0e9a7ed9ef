/-
TagExpr/Proofs/SourceLines.lean

Lines, columns and bytes of a source.

A character stands in a line and a column, both counted from one: its line is one of those
the source is cut into, and so many characters precede it there.  `location?` finds this
place, so it names every character of the source and no two offsets alike:

    StandsAt source i line column   →   location? i = some (line, column).

A character also begins at a byte.  The character numbered `i` begins at byte `i` only if all
characters before it have one byte; otherwise it begins later.
-/
import TagExpr.Proofs.ByteSlices
import TagExpr.Report.Source
import TagExpr.Span

namespace TagExpr

/-! ### The place of a character -/

/-- The character numbered `i` stands in this line and this column of the source. -/
def StandsAt (source : String) (i line column : Nat) : Prop :=
  ∃ before head c tail after, splitLines source.toList = before ++ (head ++ c :: tail) :: after ∧
    i = before.flatten.length + head.length ∧ line = before.length + 1 ∧
    column = head.length + 1

/-- Every character of a text in lines is in one of them. -/
theorem exists_line_of_lt {ls : List (List Char)} {i : Nat} (hi : i < ls.flatten.length) :
    ∃ before head c tail after, ls = before ++ (head ++ c :: tail) :: after ∧
      i = before.flatten.length + head.length := by
  induction ls generalizing i with
  | nil => simp at hi
  | cons l ls ih =>
    -- in the first line, or further on by its length
    by_cases hl : i < l.length
    · refine ⟨[], l.take i, l[i], l.drop (i + 1), ls, ?_, ?_⟩
      · simp
      · simp only [List.flatten_nil, List.length_nil, List.length_take]
        omega
    · simp only [List.flatten_cons, List.length_append] at hi
      obtain ⟨before, head, c, tail, after, hls, hi⟩ := ih (i := i - l.length) (by omega)
      refine ⟨l :: before, head, c, tail, after, by rw [hls, List.cons_append], ?_⟩
      simp only [List.flatten_cons, List.length_append]
      omega

theorem exists_standsAt {source : String} {i : Nat} (hi : i < source.length) :
    ∃ line column, StandsAt source i line column := by
  rw [← String.length_toList, ← flatten_splitLines source.toList] at hi
  obtain ⟨before, head, c, tail, after, hls, hi⟩ := exists_line_of_lt hi
  exact ⟨_, _, before, head, c, tail, after, hls, hi, rfl, rfl⟩

/-! ### Finding the place -/

/-- No line begins before the first one. -/
theorem countP_withOffsets_of_lt {off first : Nat} (h : off < first) (ls : List (List Char)) :
    (withOffsets first ls).countP (·.offset ≤ off) = 0 := by
  induction ls generalizing first with
  | nil => rfl
  | cons l ls ih =>
    rw [withOffsets, List.countP_cons_of_neg (by simpa using h), ih (by omega)]

/-- The lines that begin at or before an offset are those up to the line it is in. -/
theorem countP_withOffsets {first k : Nat} {before after : List (List Char)} {l : List Char}
    (hk : k < l.length) :
    (withOffsets first (before ++ l :: after)).countP
      (·.offset ≤ first + (before.flatten.length + k)) = before.length + 1 := by
  -- each line before begins early enough, and so does the line itself, but none after it
  induction before generalizing first with
  | nil =>
    rw [List.nil_append, withOffsets, List.countP_cons_of_pos (by simp),
      countP_withOffsets_of_lt (by simp; omega)]
    rfl
  | cons b before ih =>
    have hflat : first + ((b :: before).flatten.length + k)
        = first + b.length + (before.flatten.length + k) := by
      simp only [List.flatten_cons, List.length_append]
      omega
    rw [hflat, List.cons_append, withOffsets, List.countP_cons_of_pos (by simp; omega), ih,
      List.length_cons]

theorem getElem?_withOffsets (first : Nat) (before after : List (List Char)) (l : List Char) :
    (withOffsets first (before ++ l :: after))[before.length]?
      = some ⟨first + before.flatten.length, l⟩ := by
  induction before generalizing first with
  | nil => rfl
  | cons b before ih =>
    rw [List.cons_append, withOffsets, List.length_cons, List.getElem?_cons_succ, ih]
    simp [Nat.add_assoc]

/-- The last line that begins at or before an offset does so. -/
theorem offset_le_of_getElem? {first off : Nat} (h : first ≤ off) {ls : List (List Char)}
    {l : SourceLine}
    (hl : (withOffsets first ls)[(withOffsets first ls).countP (·.offset ≤ off) - 1]? = some l) :
    l.offset ≤ off := by
  induction ls generalizing first with
  | nil => simp [withOffsets] at hl
  | cons b ls ih =>
    rw [withOffsets, List.countP_cons_of_pos (by simpa using h), Nat.add_sub_cancel] at hl
    -- unless the next line begins early enough as well, the first one is the last to do so
    by_cases hb : first + b.length ≤ off
    · rcases hn : (withOffsets (first + b.length) ls).countP (·.offset ≤ off) with - | n
      · rw [hn, List.getElem?_cons_zero, Option.some.injEq] at hl
        subst hl
        exact h
      · refine ih hb ?_
        rw [hn, List.getElem?_cons_succ] at hl
        rwa [hn, Nat.add_sub_cancel]
    · rw [countP_withOffsets_of_lt (Nat.lt_of_not_le hb), List.getElem?_cons_zero,
        Option.some.injEq] at hl
      subst hl
      exact h

namespace Source

theorem lineAt?_eq_some_iff {s : Source} {off n : Nat} :
    s.lineAt? off = some n
      ↔ (off ≤ s.length ∧ s.lines ≠ []) ∧ s.lines.countP (·.offset ≤ off) - 1 = n := by
  simp only [lineAt?, Option.ite_none_right_eq_some, Option.some.injEq]

theorem location?_eq_some_iff {s : Source} {off line column : Nat} :
    s.location? off = some (line, column)
      ↔ ∃ n l, s.lineAt? off = some n ∧ s.lines[n]? = some l ∧ n + 1 = line ∧
        off - l.offset + 1 = column := by
  simp only [location?, Option.bind_eq_bind, Option.bind_eq_some_iff, Option.pure_def,
    Option.some.injEq, Prod.mk.injEq]
  constructor
  · rintro ⟨n, hn, l, hl, hline, hcolumn⟩
    exact ⟨n, l, hn, hl, hline, hcolumn⟩
  · rintro ⟨n, l, hn, hl, hline, hcolumn⟩
    exact ⟨n, hn, l, hl, hline, hcolumn⟩

/-- The line of a character is the last one that begins at or before it. -/
theorem lineAt?_of_lines {source : String} {before after : List (List Char)} {head tail : List Char}
    {c : Char} (hls : splitLines source.toList = before ++ (head ++ c :: tail) :: after) :
    (ofString source).lineAt? (before.flatten.length + head.length) = some before.length := by
  have hlength : source.length = (splitLines source.toList).flatten.length := by
    rw [flatten_splitLines, String.length_toList]
  have hcount : (withOffsets 0 (before ++ (head ++ c :: tail) :: after)).countP
      (·.offset ≤ 0 + (before.flatten.length + head.length)) = before.length + 1 :=
    countP_withOffsets (by simp)
  rw [Nat.zero_add] at hcount
  rw [lineAt?_eq_some_iff]
  refine ⟨⟨?_, ?_⟩, ?_⟩
  · simp only [ofString, hlength, hls, List.flatten_append, List.flatten_cons, List.length_append]
    omega
  · intro hlines
    simp only [ofString, hls] at hlines
    simp [hlines] at hcount
  · simp only [ofString, hls, hcount]
    omega

/-- **The place of a character is found.** -/
theorem location?_of_standsAt {source : String} {i line column : Nat}
    (h : StandsAt source i line column) :
    (ofString source).location? i = some (line, column) := by
  obtain ⟨before, head, c, tail, after, hls, rfl, rfl, rfl⟩ := h
  have hline : (ofString source).lines[before.length]?
      = some ⟨0 + before.flatten.length, head ++ c :: tail⟩ := by
    rw [ofString, hls, getElem?_withOffsets]
  rw [location?_eq_some_iff]
  refine ⟨before.length, _, lineAt?_of_lines hls, hline, rfl, ?_⟩
  simp only
  omega

/-- A source in which a character stands has lines. -/
theorem lines_ne_nil_of_standsAt {source : String} {i line column : Nat}
    (h : StandsAt source i line column) : (ofString source).lines ≠ [] := by
  obtain ⟨n, -, hn, -⟩ := location?_eq_some_iff.mp (location?_of_standsAt h)
  exact (lineAt?_eq_some_iff.mp hn).1.2

/-- No two offsets have one place. -/
theorem location?_inj {source : String} {i j line column : Nat}
    (hi : (ofString source).location? i = some (line, column))
    (hj : (ofString source).location? j = some (line, column)) : i = j := by
  rw [location?_eq_some_iff] at hi hj
  obtain ⟨n, l, hn, hl, rfl, rfl⟩ := hi
  obtain ⟨m, k, hm, hk, hmn, hkl⟩ := hj
  obtain rfl : m = n := Nat.succ.inj hmn
  obtain rfl : k = l := Option.some.inj (hk.symm.trans hl)
  rw [← (lineAt?_eq_some_iff.mp hn).2] at hl
  rw [← (lineAt?_eq_some_iff.mp hm).2] at hk
  -- an offset is not before its line, so the column gives it back
  have hki := offset_le_of_getElem? (Nat.zero_le i) hl
  have hkj := offset_le_of_getElem? (Nat.zero_le j) hk
  omega

/-- Every offset up to the length of a source that has lines has a place. -/
theorem exists_location? {s : Source} {off : Nat} (hoff : off ≤ s.length) (hs : s.lines ≠ []) :
    ∃ line column, s.location? off = some (line, column) := by
  have hlt : s.lines.countP (·.offset ≤ off) - 1 < s.lines.length := by
    have : s.lines.countP (·.offset ≤ off) ≤ s.lines.length := List.countP_le_length
    have := List.length_pos_iff.mpr hs
    omega
  refine ⟨_, _, location?_eq_some_iff.mpr ⟨_, s.lines[_], lineAt?_eq_some_iff.mpr ⟨⟨hoff, hs⟩, rfl⟩,
    List.getElem?_eq_getElem hlt, rfl, rfl⟩⟩

end Source

/-! ### The byte of a character -/

/-- The character numbered `i` begins at byte `n` of the source. -/
def BeginsAtByte (source : String) (n i : Nat) : Prop :=
  i < source.length ∧ utf8Length (source.toList.take i) = n

/-- As many bytes as characters: each has one. -/
theorem utf8Length_eq_length_iff {cs : List Char} :
    utf8Length cs = cs.length ↔ ∀ c ∈ cs, c.utf8Size = 1 := by
  induction cs with
  | nil => simp [utf8Length]
  | cons c cs ih =>
    have := c.utf8Size_pos
    have := length_le_utf8Length cs
    rw [List.forall_mem_cons, ← ih, List.length_cons, utf8Length]
    omega

theorem BeginsAtByte.eq_iff {source : String} {n i : Nat} (h : BeginsAtByte source n i) :
    n = i ↔ ∀ c ∈ source.toList.take i, c.utf8Size = 1 := by
  obtain ⟨hi, rfl⟩ := h
  rw [← utf8Length_eq_length_iff, List.length_take, String.length_toList,
    Nat.min_eq_left (Nat.le_of_lt hi)]

/-- A span that covers some text begins where a character does. -/
theorem Span.exists_beginsAtByte {source t : String} {s : Span} (h : s.text? source = some t)
    (ht : t ≠ "") : s.start.val < s.stop.val ∧ ∃ i, BeginsAtByte source s.start.val i := by
  simp only [text?, byteSlice?, sliceBytes?, Option.map_eq_some_iff,
    Option.ite_none_right_eq_some, Option.bind_eq_some_iff] at h
  obtain ⟨cs, ⟨hle, rest, hrest, hcs⟩, rfl⟩ := h
  obtain ⟨dropped, hsource, hlength⟩ := eq_append_of_dropBytes? hrest
  have hne : cs ≠ [] := fun hnil => ht (by rw [hnil])
  have hbytes := utf8Length_of_takeBytes? hcs
  have hpos := length_le_utf8Length cs
  have := List.length_pos_iff.mpr hne
  refine ⟨by omega, dropped.length, ?_, ?_⟩
  · -- a text that covers something has a character to begin with
    rw [← String.length_toList, hsource, List.length_append]
    cases rest with
    | nil =>
      simp only [takeBytes?, Option.ite_none_right_eq_some, Option.some.injEq] at hcs
      exact absurd hcs.2.symm hne
    | cons c rest =>
      rw [List.length_cons]
      omega
  · rw [hsource, List.take_left' rfl, hlength]

end TagExpr
