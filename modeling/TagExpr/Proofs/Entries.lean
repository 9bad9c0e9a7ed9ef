/-
TagExpr/Proofs/Entries.lean

Entries of a mapping as a finite map.

Entries are sorted if their keys increase strictly; those built from any list are.  Of sorted
entries each key has one place, so what a key gives and which entries there are is the same
question, and the keys alone fix the list of keys:

    lookup k es = some v  ↔  (k, v) ∈ es
    as many keys in xs as in ys, and all of xs in ys  →  the same keys in the same order.

The last law is what lets a comparison run through two mappings side by side.
-/
import Mathlib.Data.List.Perm.Subperm
import TagExpr.Value.Entries

namespace TagExpr

namespace Entries

variable {V W : Type}

/-- Keys increase from entry to entry. -/
def Sorted (es : List (String × V)) : Prop :=
  es.Pairwise fun a b => a.1 < b.1

/-- The keys, in order. -/
def keys (es : List (String × V)) : List String :=
  es.map (·.1)

@[simp] theorem keys_cons (e : String × V) (es : List (String × V)) :
    keys (e :: es) = e.1 :: keys es := rfl

/-! ### Building sorted entries -/

theorem mem_insert {k : String} {v : V} {es : List (String × V)} {e : String × V}
    (h : e ∈ insert k v es) : e = (k, v) ∨ e ∈ es := by
  induction es with
  | nil => simpa [insert] using h
  | cons head rest ih =>
    obtain ⟨l, w⟩ := head
    -- in front of the head, in its place, or further on
    unfold insert at h
    split at h
    · simpa using h
    · split at h
      · rcases List.mem_cons.mp h with h | h
        · exact .inl h
        · exact .inr (List.mem_cons_of_mem _ h)
      · rcases List.mem_cons.mp h with h | h
        · exact .inr (h ▸ List.mem_cons_self)
        · exact (ih h).imp_right (List.mem_cons_of_mem _)

theorem sorted_insert (k : String) (v : V) {es : List (String × V)} (h : Sorted es) :
    Sorted (insert k v es) := by
  induction es with
  | nil => exact List.pairwise_singleton _ _
  | cons head rest ih =>
    obtain ⟨l, w⟩ := head
    obtain ⟨hhead, hrest⟩ := List.pairwise_cons.mp h
    unfold insert
    split
    · -- the new entry comes first, before all that the head comes before
      next hkl =>
      refine List.pairwise_cons.mpr ⟨fun e he => ?_, h⟩
      rcases List.mem_cons.mp he with rfl | he
      · exact hkl
      · exact String.lt_trans hkl (hhead e he)
    · next hkl =>
      split
      · next heq => exact List.pairwise_cons.mpr ⟨fun e he => heq ▸ hhead e he, hrest⟩
      · next hne =>
        refine List.pairwise_cons.mpr ⟨fun e he => ?_, ih hrest⟩
        rcases mem_insert he with rfl | he
        · exact ((Std.lt_trichotomy k l).resolve_left hkl).resolve_left hne
        · exact hhead e he

/-- Entries built from a list are sorted, whatever the list. -/
theorem sorted_ofList (entries : List (String × V)) : Sorted (ofList entries) := by
  suffices h : ∀ sorted : List (String × V), Sorted sorted →
      Sorted (entries.foldl (fun sorted e => insert e.1 e.2 sorted) sorted) from
    h [] List.Pairwise.nil
  induction entries with
  | nil => exact fun sorted h => h
  | cons e rest ih => exact fun sorted h => ih _ (sorted_insert e.1 e.2 h)

/-! ### Looking keys up -/

theorem mem_of_lookup {k : String} {v : V} {es : List (String × V)} (h : lookup k es = some v) :
    (k, v) ∈ es := by
  induction es with
  | nil => cases h
  | cons e rest ih =>
    obtain ⟨l, w⟩ := e
    unfold lookup at h
    split at h
    · next hkl =>
      cases h
      exact hkl ▸ List.mem_cons_self
    · exact List.mem_cons_of_mem _ (ih h)

theorem lookup_of_mem {k : String} {v : V} {es : List (String × V)} (hs : Sorted es)
    (h : (k, v) ∈ es) : lookup k es = some v := by
  induction es with
  | nil => cases h
  | cons e rest ih =>
    obtain ⟨l, w⟩ := e
    obtain ⟨hhead, hrest⟩ := List.pairwise_cons.mp hs
    rcases List.mem_cons.mp h with h | h
    · cases h
      exact if_pos rfl
    · -- a key further on is greater than the first
      have hlk : l < k := hhead _ h
      rw [lookup, if_neg (Std.ne_of_lt hlk).symm]
      exact ih hrest h

/-- In sorted entries, a key gives a value iff they are an entry. -/
theorem lookup_eq_some_iff {k : String} {v : V} {es : List (String × V)} (hs : Sorted es) :
    lookup k es = some v ↔ (k, v) ∈ es :=
  ⟨mem_of_lookup, lookup_of_mem hs⟩

/-! ### Sorted keys are fixed by their set -/

theorem pairwise_keys {es : List (String × V)} (hs : Sorted es) : (keys es).Pairwise (· < ·) :=
  List.pairwise_map.mpr hs

theorem nodup_keys {es : List (String × V)} (hs : Sorted es) : (keys es).Nodup :=
  (pairwise_keys hs).imp Std.ne_of_lt

theorem keys_eq_of_perm {xs : List (String × V)} {ys : List (String × W)} (hx : Sorted xs)
    (hy : Sorted ys) (h : (keys xs).Perm (keys ys)) : keys xs = keys ys := by
  refine h.eq_of_pairwise ?_ (pairwise_keys hx) (pairwise_keys hy)
  exact fun k l _ _ hkl hlk => absurd hlk (String.lt_asymm hkl)

/-- Two sorted lists have the same keys if the same keys occur in them. -/
theorem keys_eq_of_mem_iff {xs : List (String × V)} {ys : List (String × W)} (hx : Sorted xs)
    (hy : Sorted ys) (h : ∀ k, k ∈ keys xs ↔ k ∈ keys ys) : keys xs = keys ys := by
  refine keys_eq_of_perm hx hy ?_
  exact (List.perm_ext_iff_of_nodup (nodup_keys hx) (nodup_keys hy)).mpr fun k => h k

/-- Two sorted lists of as many entries have the same keys if all keys of one are in the other. -/
theorem keys_eq_of_subset {xs : List (String × V)} {ys : List (String × W)} (hx : Sorted xs)
    (hy : Sorted ys) (hlen : xs.length = ys.length) (hsub : keys xs ⊆ keys ys) :
    keys xs = keys ys := by
  -- distinct keys that all occur in a list of the same length are that list, in some order
  refine keys_eq_of_perm hx hy ?_
  refine (List.subperm_of_subset (nodup_keys hx) hsub).perm_of_length_le ?_
  rw [keys, keys, List.length_map, List.length_map]
  exact Nat.le_of_eq hlen.symm

end Entries

end TagExpr
