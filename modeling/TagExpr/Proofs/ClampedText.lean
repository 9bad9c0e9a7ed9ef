/-
TagExpr/Proofs/ClampedText.lean

Spans of clamped offsets, and the texts they cover.

The two offsets of a span are clamped one by one, so a span may have a text where its offsets have
none: a reversed pair beyond the greatest position is clamped to an empty range.  In a source that
is shorter than the greatest position this does not happen.  Up to that position nothing is clamped,
and beyond it an offset is beyond the end of the source, clamped or not:

    (ofNat a b).text? source = byteSlice? source a b       iff   |source| < maxPosition.

So the span has a text exactly if its offsets are in order and at boundaries of the source, and
then its length is that of the text.
-/
import TagExpr.Proofs.ByteSlices
import TagExpr.Span

namespace TagExpr

namespace Span

/-! ### Length -/

/-- A span that has a text is as long as the text, in bytes. -/
theorem utf8ByteSize_of_text? {s : Span} {source t : String} (h : s.text? source = some t) :
    t.utf8ByteSize = s.length := by
  obtain ⟨before, after, -, -, hstop⟩ := byteSlice?_eq_some_iff.mp h
  rw [← utf8Length_toList, length, ← hstop, Nat.add_sub_cancel_left]

theorem isEmpty_iff_length_eq_zero {s : Span} : s.isEmpty = true ↔ s.length = 0 := by
  rw [isEmpty, length, decide_eq_true_iff, Nat.sub_eq_zero_iff_le]

/-- A text is empty where its span is. -/
theorem eq_empty_iff_of_text? {s : Span} {source t : String} (h : s.text? source = some t) :
    t = "" ↔ s.isEmpty = true := by
  rw [isEmpty_iff_length_eq_zero, ← utf8ByteSize_of_text? h, String.utf8ByteSize_eq_zero_iff]

/-! ### Clamping -/

theorem text?_ofNat (source : String) (a b : Nat) :
    (ofNat a b).text? source = byteSlice? source (min a maxPosition) (min b maxPosition) := rfl

/-- In a source shorter than the greatest position, offsets have the same text clamped or not. -/
theorem text?_ofNat_of_lt {source : String} (hlength : source.utf8ByteSize < maxPosition)
    (a b : Nat) : (ofNat a b).text? source = byteSlice? source a b := by
  rw [text?_ofNat]
  rcases Nat.lt_or_ge maxPosition (max a b) with hbeyond | hwithin
  · -- one of the offsets is clamped, to a position that is beyond the end as well
    have hclamped : source.utf8ByteSize < max (min a maxPosition) (min b maxPosition) := by omega
    rw [byteSlice?_eq_none_of_lt hclamped, byteSlice?_eq_none_of_lt (Nat.lt_trans hlength hbeyond)]
  · obtain ⟨ha, hb⟩ := Nat.max_le.mp hwithin
    rw [Nat.min_eq_left ha, Nat.min_eq_left hb]

/-- **Clamping goes unnoticed in the sources that are shorter than the greatest position**, and in
no other. -/
theorem text?_ofNat_eq_byteSlice?_iff {source : String} :
    (∀ a b, (ofNat a b).text? source = byteSlice? source a b) ↔
      source.utf8ByteSize < maxPosition := by
  constructor
  · intro hsame
    refine Nat.lt_of_not_le fun hlong => ?_
    -- the empty ranges at the end of the source and one byte after it are clamped to one span,
    have hclamped : ofNat source.utf8ByteSize source.utf8ByteSize
        = ofNat (source.utf8ByteSize + 1) (source.utf8ByteSize + 1) := by
      simp only [ofNat, BytePos.ofNat, Nat.min_eq_right hlong,
        Nat.min_eq_right (Nat.le_succ_of_le hlong)]
    -- but only the first of them has a text
    have hend := isBoundary_utf8ByteSize source
    have htext := isSome_byteSlice?_iff.mpr ⟨Nat.le_refl _, hend, hend⟩
    have hbeyond : source.utf8ByteSize
        < max (source.utf8ByteSize + 1) (source.utf8ByteSize + 1) := by omega
    rw [← hsame, hclamped, hsame, byteSlice?_eq_none_of_lt hbeyond] at htext
    cases htext
  · exact text?_ofNat_of_lt

/-- **Clamping does not change texts.**  In a source that is shorter than the greatest position, the
span of any two offsets covers the slice between them: the bytes from the one to the other, if
they are in order, not beyond the end and both at boundaries of characters, and otherwise
nothing.  The length of such a span is the number of bytes of its text, and the one is empty if
the other is. -/
theorem clamping_keeps_text {source : String} (hlength : source.utf8ByteSize < maxPosition)
    (a b : Nat) :
    (ofNat a b).text? source = byteSlice? source a b ∧
    (∀ t, (ofNat a b).text? source = some t ↔
      a ≤ b ∧ b ≤ source.utf8ByteSize ∧ String.Pos.Raw.IsValid source ⟨a⟩ ∧
        String.Pos.Raw.IsValid source ⟨b⟩ ∧ t.toUTF8 = source.toUTF8.extract a b) ∧
    ∀ t, (ofNat a b).text? source = some t →
      t.utf8ByteSize = (ofNat a b).length ∧ (t = "" ↔ (ofNat a b).isEmpty = true) := by
  refine ⟨text?_ofNat_of_lt hlength a b, ?_, ?_⟩
  · intro t
    rw [text?_ofNat_of_lt hlength, byteSlice?_eq_some_iff_extract, isBoundary_iff_isValid,
      isBoundary_iff_isValid]
    constructor
    · rintro ⟨hle, ha, hb, ht⟩
      exact ⟨hle, hb.le_rawEndPos, ha, hb, ht⟩
    · rintro ⟨hle, -, ha, hb, ht⟩
      exact ⟨hle, ha, hb, ht⟩
  · intro t ht
    exact ⟨utf8ByteSize_of_text? ht, eq_empty_iff_of_text? ht⟩

/-- The `ö` of `größe` goes from byte 5 to byte 7, so there is a text from byte 3 to byte 10 but
none to byte 6.  Two offsets beyond the greatest position, the greater one first, are clamped to
an empty span; it has no text either. -/
theorem clamping_keeps_text_umlaut :
    let source := "{{ größe }}"
    source.utf8ByteSize < maxPosition ∧
    (ofNat 3 10).text? source = some "größe" ∧
    "größe".toUTF8 = source.toUTF8.extract 3 10 ∧
    String.Pos.Raw.IsValid source ⟨10⟩ ∧
    "größe".utf8ByteSize = (ofNat 3 10).length ∧ (ofNat 3 10).isEmpty = false ∧
    (∀ t, (ofNat 3 6).text? source ≠ some t) ∧ ¬ String.Pos.Raw.IsValid source ⟨6⟩ ∧
    ofNat 18446744073709551615 4294967296 = ofNat maxPosition maxPosition ∧
    (ofNat 18446744073709551615 4294967296).text? source = none := by
  intro source
  have hlength : source.utf8ByteSize < maxPosition := by decide
  have htext : (ofNat 3 10).text? source = some "größe" := by decide
  have hmiddle : ¬ String.Pos.Raw.IsValid source ⟨6⟩ := by decide
  obtain ⟨-, hbytes, hlen⟩ := clamping_keeps_text hlength 3 10
  obtain ⟨-, -, -, hvalid, hextract⟩ := (hbytes "größe").mp htext
  obtain ⟨hsize, hempty⟩ := hlen "größe" htext
  obtain ⟨-, hcut, -⟩ := clamping_keeps_text hlength 3 6
  obtain ⟨hslice, -, -⟩ := clamping_keeps_text hlength 18446744073709551615 4294967296
  refine ⟨hlength, htext, hextract, hvalid, hsize, ?_, ?_, hmiddle, by decide, ?_⟩
  · exact Bool.eq_false_iff.mpr (mt hempty.mpr (by decide))
  · intro t ht
    exact hmiddle ((hcut t).mp ht).2.2.2.1
  · rw [hslice]
    exact byteSlice?_eq_none_of_lt (by decide)

end Span

end TagExpr
