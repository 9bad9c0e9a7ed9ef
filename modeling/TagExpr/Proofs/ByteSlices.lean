/-
TagExpr/Proofs/ByteSlices.lean

Slices of a text as pieces of it.

The part of a text from byte `a` up to byte `b` is what stands between two pieces:

    byteSlice? text a b = some t   ↔   text = before ++ t ++ after  with  |before| = a,
                                                                 |before| + |t| = b,

where `|·|` counts bytes.  A piece ends at a boundary, a number of bytes that ends between two
characters, and every pair of boundaries in order is the pair of ends of a slice.  A slice
that lies within another one is a slice of its text, at offsets counted from where that begins.

The characters of a text are its UTF-8 form, decoded; so boundaries are the valid positions of that
form, and a slice is the part of it between two of them.
-/
import TagExpr.Text.ByteSlice

namespace TagExpr

/-! ### Bytes of a list of characters -/

theorem utf8Length_append (xs ys : List Char) :
    utf8Length (xs ++ ys) = utf8Length xs + utf8Length ys := by
  induction xs with
  | nil => simp [utf8Length]
  | cons x xs ih =>
    rw [List.cons_append, utf8Length, utf8Length, ih]
    omega

theorem length_le_utf8Length (cs : List Char) : cs.length ≤ utf8Length cs := by
  induction cs with
  | nil => exact Nat.le_refl 0
  | cons c cs ih =>
    have := c.utf8Size_pos
    rw [List.length_cons, utf8Length]
    omega

/-- Of two beginnings of one text, the other begins with the one that has no more bytes. -/
theorem exists_eq_append_of_utf8Length_le {xs xs' ys ys' : List Char}
    (h : xs ++ xs' = ys ++ ys') (hle : utf8Length xs ≤ utf8Length ys) :
    ∃ mid, ys = xs ++ mid ∧ xs' = mid ++ ys' := by
  rcases List.append_eq_append_iff.mp h with hmid | ⟨mid, hxs, hys'⟩
  · exact hmid
  · -- what the first one has more has no bytes
    have hlength := length_le_utf8Length mid
    rw [hxs, utf8Length_append] at hle
    obtain rfl : mid = [] := List.eq_nil_of_length_eq_zero (by omega)
    rw [List.append_nil] at hxs
    exact ⟨[], by rw [hxs, List.append_nil], hys'.symm⟩

/-! ### Dropping and taking bytes -/

/-- What is left after some bytes of a text are dropped. -/
theorem eq_append_of_dropBytes? {n : Nat} {cs rest : List Char}
    (h : dropBytes? n cs = some rest) :
    ∃ dropped, cs = dropped ++ rest ∧ utf8Length dropped = n := by
  induction cs generalizing n with
  | nil =>
    simp only [dropBytes?, Option.ite_none_right_eq_some, Option.some.injEq] at h
    obtain ⟨rfl, rfl⟩ := h
    exact ⟨[], rfl, rfl⟩
  | cons c cs ih =>
    -- nothing more to drop, a whole character, or only a part of one
    unfold dropBytes? at h
    split at h
    · next hn =>
      cases h
      exact ⟨[], rfl, hn.symm⟩
    · split at h
      · next hc =>
        obtain ⟨dropped, rfl, hlength⟩ := ih h
        refine ⟨c :: dropped, rfl, ?_⟩
        rw [utf8Length, hlength]
        omega
      · cases h

theorem dropBytes?_append (dropped rest : List Char) :
    dropBytes? (utf8Length dropped) (dropped ++ rest) = some rest := by
  induction dropped with
  | nil => cases rest <;> simp [utf8Length, dropBytes?]
  | cons c dropped ih =>
    have := c.utf8Size_pos
    rw [utf8Length, List.cons_append, dropBytes?, if_neg (by omega), if_pos (by omega),
      Nat.add_sub_cancel_left, ih]

theorem eq_append_of_takeBytes? {n : Nat} {cs taken : List Char}
    (h : takeBytes? n cs = some taken) : ∃ rest, cs = taken ++ rest := by
  induction cs generalizing n taken with
  | nil =>
    simp only [takeBytes?, Option.ite_none_right_eq_some, Option.some.injEq] at h
    exact ⟨[], by rw [← h.2, List.append_nil]⟩
  | cons c cs ih =>
    unfold takeBytes? at h
    split at h
    · cases h
      exact ⟨c :: cs, rfl⟩
    · split at h
      · obtain ⟨u, hu, rfl⟩ := Option.map_eq_some_iff.mp h
        obtain ⟨rest, rfl⟩ := ih hu
        exact ⟨rest, rfl⟩
      · cases h

theorem takeBytes?_append (taken rest : List Char) :
    takeBytes? (utf8Length taken) (taken ++ rest) = some taken := by
  induction taken with
  | nil => cases rest <;> simp [utf8Length, takeBytes?]
  | cons c taken ih =>
    have := c.utf8Size_pos
    rw [utf8Length, List.cons_append, takeBytes?, if_neg (by omega), if_pos (by omega),
      Nat.add_sub_cancel_left, ih, Option.map_some]

/-! ### Slices -/

/-- **A slice is a piece of the text** that begins and ends at its offsets. -/
theorem byteSlice?_eq_some_iff {text t : String} {a b : Nat} :
    byteSlice? text a b = some t ↔ ∃ before after,
      text.toList = before ++ (t.toList ++ after) ∧ utf8Length before = a ∧
        a + utf8Length t.toList = b := by
  simp only [byteSlice?, sliceBytes?, Option.map_eq_some_iff, Option.ite_none_right_eq_some,
    Option.bind_eq_some_iff]
  constructor
  · rintro ⟨taken, ⟨hle, rest, hrest, htaken⟩, rfl⟩
    obtain ⟨before, htext, hbefore⟩ := eq_append_of_dropBytes? hrest
    obtain ⟨after, rfl⟩ := eq_append_of_takeBytes? htaken
    have hlength := utf8Length_of_takeBytes? htaken
    rw [String.toList_ofList]
    exact ⟨before, after, htext, hbefore, by omega⟩
  · rintro ⟨before, after, htext, rfl, rfl⟩
    refine ⟨t.toList, ⟨by omega, t.toList ++ after, ?_, ?_⟩, String.ofList_toList⟩
    · rw [htext, dropBytes?_append]
    · rw [Nat.add_sub_cancel_left, takeBytes?_append]

/-- The first `n` bytes of a text end between two characters, or at its end. -/
def IsBoundary (text : String) (n : Nat) : Prop :=
  ∃ before after, text.toList = before ++ after ∧ utf8Length before = n

theorem isBoundary_zero (text : String) : IsBoundary text 0 :=
  ⟨[], text.toList, rfl, rfl⟩

/-- There is a slice between any two boundaries in order, and no other. -/
theorem isSome_byteSlice?_iff {text : String} {a b : Nat} :
    (byteSlice? text a b).isSome ↔ a ≤ b ∧ IsBoundary text a ∧ IsBoundary text b := by
  rw [Option.isSome_iff_exists]
  constructor
  · rintro ⟨t, ht⟩
    obtain ⟨before, after, htext, hbefore, hlength⟩ := byteSlice?_eq_some_iff.mp ht
    refine ⟨by omega, ⟨before, t.toList ++ after, htext, hbefore⟩,
      ⟨before ++ t.toList, after, by rw [htext, List.append_assoc], ?_⟩⟩
    rw [utf8Length_append, hbefore, hlength]
  · rintro ⟨hle, ⟨before, rest, htext, rfl⟩, ⟨upTo, after, htext', rfl⟩⟩
    -- what stands before `b` goes on from what stands before `a`
    obtain ⟨t, rfl, -⟩ := exists_eq_append_of_utf8Length_le (htext.symm.trans htext') hle
    refine ⟨String.ofList t, byteSlice?_eq_some_iff.mpr ⟨before, after, ?_, rfl, ?_⟩⟩
    · rw [htext', String.toList_ofList, List.append_assoc]
    · rw [String.toList_ofList, utf8Length_append]

/-- **A slice within a slice is a slice of its text**, at offsets from where it begins. -/
theorem byteSlice?_of_within {text s t : String} {a b c d : Nat}
    (hs : byteSlice? text a b = some s) (ht : byteSlice? text c d = some t) (hac : a ≤ c)
    (hdb : d ≤ b) : byteSlice? s (c - a) (d - a) = some t := by
  obtain ⟨before, after, htext, rfl, rfl⟩ := byteSlice?_eq_some_iff.mp hs
  obtain ⟨before', after', htext', rfl, rfl⟩ := byteSlice?_eq_some_iff.mp ht
  -- the inner slice begins after some more characters, ...
  obtain ⟨skipped, rfl, hrest⟩ :=
    exists_eq_append_of_utf8Length_le (htext.symm.trans htext') hac
  rw [utf8Length_append] at hdb ⊢
  -- ... and the outer one ends some characters after it
  rw [← List.append_assoc] at hrest
  have hle : utf8Length (skipped ++ t.toList) ≤ utf8Length s.toList := by
    rw [utf8Length_append]
    omega
  obtain ⟨trailing, hs, -⟩ := exists_eq_append_of_utf8Length_le hrest.symm hle
  refine byteSlice?_eq_some_iff.mpr ⟨skipped, trailing, ?_, ?_, ?_⟩
  · rw [hs, List.append_assoc]
  · omega
  · omega

/-! ### Slices of the UTF-8 form -/

theorem utf8ByteSize_ofList (cs : List Char) : (String.ofList cs).utf8ByteSize = utf8Length cs := by
  induction cs with
  | nil => rfl
  | cons c cs ih =>
    rw [String.ofList_cons, String.utf8ByteSize_append, String.utf8ByteSize_singleton, ih,
      utf8Length]

theorem utf8Length_toList (text : String) : utf8Length text.toList = text.utf8ByteSize := by
  rw [← utf8ByteSize_ofList, String.ofList_toList]

/-- The boundaries of a text are the valid positions of its UTF-8 form. -/
theorem isBoundary_iff_isValid {text : String} {n : Nat} :
    IsBoundary text n ↔ String.Pos.Raw.IsValid text ⟨n⟩ := by
  rw [String.Pos.Raw.isValid_iff_exists_append]
  constructor
  · rintro ⟨before, after, htext, rfl⟩
    refine ⟨.ofList before, .ofList after, ?_, ?_⟩
    · rw [← String.ofList_append, ← htext, String.ofList_toList]
    · rw [String.rawEndPos, utf8ByteSize_ofList]
  · rintro ⟨before, after, rfl, hn⟩
    refine ⟨before.toList, after.toList, String.toList_append, ?_⟩
    rw [utf8Length_toList]
    exact (congrArg String.Pos.Raw.byteIdx hn).symm

theorem IsBoundary.le {text : String} {n : Nat} (h : IsBoundary text n) :
    n ≤ text.utf8ByteSize :=
  (isBoundary_iff_isValid.mp h).le_rawEndPos

theorem isBoundary_utf8ByteSize (text : String) : IsBoundary text text.utf8ByteSize :=
  ⟨text.toList, [], (List.append_nil _).symm, utf8Length_toList text⟩

/-- There is no slice that goes beyond the end of the text. -/
theorem byteSlice?_eq_none_of_lt {text : String} {a b : Nat} (h : text.utf8ByteSize < max a b) :
    byteSlice? text a b = none := by
  rw [← Option.not_isSome_iff_eq_none, isSome_byteSlice?_iff]
  rintro ⟨-, ha, hb⟩
  exact Nat.not_lt_of_le (Nat.max_le.mpr ⟨ha.le, hb.le⟩) h

theorem toUTF8_of_byteSlice? {text t : String} {a b : Nat} (h : byteSlice? text a b = some t) :
    t.toUTF8 = text.toUTF8.extract a b := by
  obtain ⟨before, after, htext, rfl, rfl⟩ := byteSlice?_eq_some_iff.mp h
  have hsplit : text = .ofList before ++ (t ++ .ofList after) := by
    rw [← String.toList_inj, htext, String.toList_append, String.toList_append,
      String.toList_ofList, String.toList_ofList]
  rw [hsplit, ← utf8ByteSize_ofList before, utf8Length_toList, ← String.size_toByteArray,
    ← String.size_toByteArray]
  simp only [String.toUTF8_eq_toByteArray, String.toByteArray_append]
  -- take the slice off the front of what is left behind the first piece
  calc t.toByteArray
      = (t.toByteArray ++ (String.ofList after).toByteArray).extract 0 t.toByteArray.size :=
        (ByteArray.extract_append_eq_left rfl).symm
    _ = _ := ByteArray.extract_append_size_add.symm

/-- **A slice is what the UTF-8 form of the text has between two boundaries in order.** -/
theorem byteSlice?_eq_some_iff_extract {text t : String} {a b : Nat} :
    byteSlice? text a b = some t ↔
      a ≤ b ∧ IsBoundary text a ∧ IsBoundary text b ∧ t.toUTF8 = text.toUTF8.extract a b := by
  constructor
  · intro h
    obtain ⟨hle, ha, hb⟩ := isSome_byteSlice?_iff.mp (Option.isSome_of_eq_some h)
    exact ⟨hle, ha, hb, toUTF8_of_byteSlice? h⟩
  · rintro ⟨hle, ha, hb, ht⟩
    obtain ⟨s, hs⟩ := Option.isSome_iff_exists.mp (isSome_byteSlice?_iff.mpr ⟨hle, ha, hb⟩)
    obtain rfl : s = t := String.toByteArray_inj.mp ((toUTF8_of_byteSlice? hs).trans ht.symm)
    exact hs

end TagExpr
