/-
TagExpr/Value/Entries.lean

Entries of a mapping: keys in strictly increasing order, each with one value.

Keys are ordered by code point.  Inserting a key that is there already replaces its value,
so the entries built from a list keep, for each key, the value that came last:

    lookup k (ofList entries) = the value of the last (k, _) of entries.
-/

namespace TagExpr

namespace Entries

variable {V : Type}

/-- Put a key in its place, or give it a new value. -/
def insert (k : String) (v : V) : List (String × V) → List (String × V)
  | [] => [(k, v)]
  | (l, w) :: rest =>
    if k < l then (k, v) :: (l, w) :: rest
    else if k = l then (k, v) :: rest
    else (l, w) :: insert k v rest

/-- The entries given by a list in which keys may repeat and stand in any order. -/
def ofList (entries : List (String × V)) : List (String × V) :=
  entries.foldl (fun sorted (k, v) => insert k v sorted) []

/-- The value of the first entry with a key. -/
def lookup (k : String) : List (String × V) → Option V
  | [] => none
  | (l, v) :: rest => if k = l then some v else lookup k rest

@[simp] theorem lookup_insert_self (k : String) (v : V) (es : List (String × V)) :
    lookup k (insert k v es) = some v := by
  induction es with
  | nil => simp [insert, lookup]
  | cons e rest ih =>
    obtain ⟨l, w⟩ := e
    simp only [insert]
    split
    · simp [lookup]
    · split
      · simp [lookup]
      · next hkl => simp [lookup, hkl, ih]

theorem lookup_insert_of_ne {k l : String} (h : k ≠ l) (v : V) (es : List (String × V)) :
    lookup k (insert l v es) = lookup k es := by
  induction es with
  | nil => simp [insert, lookup, h]
  | cons e rest ih =>
    obtain ⟨m, w⟩ := e
    simp only [insert]
    split
    · simp [lookup, h]
    · split
      · next hlm => subst hlm; simp [lookup, h]
      · simp [lookup, ih]

end Entries

end TagExpr
