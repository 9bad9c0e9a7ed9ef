/-
TagExpr/Text/ByteSlice.lean

Slices of a text by byte offsets of its UTF-8 form.

A text is read as its characters, each of one to four bytes.  Dropping or taking `n` bytes
succeeds only if `n` bytes end exactly between two characters, so a slice exists iff its
offsets are in order, inside the text and on character boundaries.

    takeBytes? n cs = some t  →  utf8Length t = n
-/

namespace TagExpr

/-- Bytes of the UTF-8 form of a list of characters. -/
def utf8Length : List Char → Nat
  | [] => 0
  | c :: cs => c.utf8Size + utf8Length cs

/-- What follows the first `n` bytes, if they end on a character boundary. -/
def dropBytes? (n : Nat) : List Char → Option (List Char)
  | [] => if n = 0 then some [] else none
  | c :: cs =>
    if n = 0 then some (c :: cs)
    else if c.utf8Size ≤ n then dropBytes? (n - c.utf8Size) cs
    else none

/-- The characters of the first `n` bytes, if they end on a character boundary. -/
def takeBytes? (n : Nat) : List Char → Option (List Char)
  | [] => if n = 0 then some [] else none
  | c :: cs =>
    if n = 0 then some []
    else if c.utf8Size ≤ n then (takeBytes? (n - c.utf8Size) cs).map (c :: ·)
    else none

/-- The characters from byte `start` up to byte `stop`. -/
def sliceBytes? (start stop : Nat) (cs : List Char) : Option (List Char) :=
  if start ≤ stop then (dropBytes? start cs).bind (takeBytes? (stop - start)) else none

/-- The part of `text` from byte `start` up to byte `stop`. -/
def byteSlice? (text : String) (start stop : Nat) : Option String :=
  (sliceBytes? start stop text.toList).map String.ofList

theorem utf8Length_of_takeBytes? {n : Nat} {cs t : List Char} (h : takeBytes? n cs = some t) :
    utf8Length t = n := by
  induction cs generalizing n t with
  | nil =>
    by_cases hn : n = 0 <;> simp [takeBytes?, hn] at h
    subst h; simp [utf8Length, hn]
  | cons c cs ih =>
    by_cases hn : n = 0
    · simp [takeBytes?, hn] at h
      subst h; simp [utf8Length, hn]
    · by_cases hc : c.utf8Size ≤ n
      · simp only [takeBytes?, hn, hc, if_true, if_false] at h
        obtain ⟨u, hu, rfl⟩ := Option.map_eq_some_iff.1 h
        have := ih hu
        simp only [utf8Length]
        omega
      · simp [takeBytes?, hn, hc] at h

end TagExpr
