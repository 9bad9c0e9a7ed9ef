/-
TagExpr/Proofs/Mappings.lean

Mappings from lists of entries.

A mapping is built from any list of entries, keys in any order and repeated.  What counts is the
last value of each key: it is what the key gives, and the inspected form shows each key with
it, in the order of the keys.

    lookup k (ofList es) = some v   iff   (k, v) ∈ ofList es   iff   LastValue es k v

Sorted entries are fixed by what their keys give, so two lists with the same last values build
the same mapping.
-/
import TagExpr.Proofs.Entries
import TagExpr.Value.Inspect

namespace TagExpr

namespace Entries

variable {V : Type}

/-! ### The last value of a key -/

/-- The last entry with the key `k` has the value `v`. -/
def LastValue (es : List (String × V)) (k : String) (v : V) : Prop :=
  ∃ before after, es = before ++ (k, v) :: after ∧ k ∉ keys after

theorem not_lastValue_nil (k : String) (v : V) : ¬ LastValue [] k v := by
  rintro ⟨before, after, h, -⟩
  simp at h

/-- The first entry counts where its key does not occur again. -/
theorem lastValue_cons_iff {e : String × V} {es : List (String × V)} {k : String} {v : V} :
    LastValue (e :: es) k v ↔ LastValue es k v ∨ e = (k, v) ∧ k ∉ keys es := by
  constructor
  · rintro ⟨before, after, h, hafter⟩
    cases before with
    | nil =>
      obtain ⟨rfl, rfl⟩ := List.cons.inj h
      exact .inr ⟨rfl, hafter⟩
    | cons d before =>
      obtain ⟨rfl, rfl⟩ := List.cons.inj h
      exact .inl ⟨before, after, rfl, hafter⟩
  · rintro (⟨before, after, rfl, hafter⟩ | ⟨rfl, hafter⟩)
    · exact ⟨e :: before, after, rfl, hafter⟩
    · exact ⟨[], es, rfl, hafter⟩

/-- Every key of a list has a last value. -/
theorem exists_lastValue_iff {es : List (String × V)} {k : String} :
    (∃ v, LastValue es k v) ↔ k ∈ keys es := by
  induction es with
  | nil => simp [keys, not_lastValue_nil]
  | cons e es ih =>
    simp only [lastValue_cons_iff, exists_or, ih, exists_and_right, keys_cons, List.mem_cons]
    constructor
    · rintro (h | ⟨⟨v, rfl⟩, -⟩)
      · exact .inr h
      · exact .inl rfl
    · intro h
      -- the first entry counts only if its key does not come again
      by_cases hlater : k ∈ keys es
      · exact .inl hlater
      · obtain rfl := h.resolve_right hlater
        exact .inr ⟨⟨e.2, rfl⟩, hlater⟩

/-- Where keys do not repeat, every entry is the last with its key. -/
theorem lastValue_iff_mem {es : List (String × V)} (h : (keys es).Nodup) {k : String} {v : V} :
    LastValue es k v ↔ (k, v) ∈ es := by
  constructor
  · rintro ⟨before, after, rfl, -⟩
    exact List.mem_append_right _ List.mem_cons_self
  · intro hmem
    obtain ⟨before, after, rfl⟩ := List.append_of_mem hmem
    rw [keys, List.map_append, List.map_cons] at h
    obtain ⟨-, hafter, -⟩ := List.nodup_append.mp h
    exact ⟨before, after, rfl, (List.nodup_cons.mp hafter).1⟩

/-! ### What a key gives -/

/-- Entries are put in one by one, so that a later one takes the place of an earlier one. -/
theorem lookup_foldl_insert_iff {es sorted : List (String × V)} {k : String} {v : V} :
    lookup k (es.foldl (fun sorted e => insert e.1 e.2 sorted) sorted) = some v ↔
      LastValue es k v ∨ lookup k sorted = some v ∧ k ∉ keys es := by
  -- the entries that are there already are general
  induction es generalizing sorted with
  | nil => simp [keys, not_lastValue_nil]
  | cons e es ih =>
    obtain ⟨l, w⟩ := e
    rw [List.foldl_cons, ih, lastValue_cons_iff, keys_cons, List.mem_cons]
    by_cases hkl : k = l
    · subst hkl
      simp [lookup_insert_self]
    · simp [lookup_insert_of_ne hkl, hkl, Ne.symm hkl]

/-- **Of a list of entries, a key gives its last value.** -/
theorem lookup_ofList_iff {es : List (String × V)} {k : String} {v : V} :
    lookup k (ofList es) = some v ↔ LastValue es k v := by
  refine lookup_foldl_insert_iff.trans ?_
  simp [lookup]

theorem mem_ofList_iff {es : List (String × V)} {k : String} {v : V} :
    (k, v) ∈ ofList es ↔ LastValue es k v := by
  rw [← lookup_eq_some_iff (sorted_ofList es), lookup_ofList_iff]

theorem mem_keys_ofList_iff {es : List (String × V)} {k : String} :
    k ∈ keys (ofList es) ↔ k ∈ keys es := by
  simp only [← exists_lastValue_iff, lastValue_iff_mem (nodup_keys (sorted_ofList es)),
    mem_ofList_iff]

theorem lookup_ofList_eq_none {es : List (String × V)} {k : String} (h : k ∉ keys es) :
    lookup k (ofList es) = none := by
  rw [Option.eq_none_iff_forall_ne_some]
  intro v hv
  exact h (exists_lastValue_iff.mp ⟨v, lookup_ofList_iff.mp hv⟩)

/-! ### Sorted entries are fixed by what their keys give -/

theorem eq_of_lookup_eq {xs ys : List (String × V)} (hx : Sorted xs) (hy : Sorted ys)
    (h : ∀ k, lookup k xs = lookup k ys) : xs = ys := by
  have hnodup : ∀ {es : List (String × V)}, Sorted es → es.Nodup :=
    fun hs => hs.imp fun hlt => mt (congrArg Prod.fst) (Std.ne_of_lt hlt)
  have hperm : xs.Perm ys := by
    rw [List.perm_ext_iff_of_nodup (hnodup hx) (hnodup hy)]
    rintro ⟨k, v⟩
    rw [← lookup_eq_some_iff hx, ← lookup_eq_some_iff hy, h]
  refine hperm.eq_of_pairwise ?_ hx hy
  exact fun d e _ _ hde hed => absurd hed (String.lt_asymm hde)

theorem ofList_eq_of_lastValue {es fs : List (String × V)}
    (h : ∀ k v, LastValue es k v ↔ LastValue fs k v) : ofList es = ofList fs := by
  refine eq_of_lookup_eq (sorted_ofList es) (sorted_ofList fs) fun k => Option.ext fun v => ?_
  rw [lookup_ofList_iff, lookup_ofList_iff, h]

/-- Entries with distinct keys can be given in any order. -/
theorem ofList_eq_of_perm {es fs : List (String × V)} (h : es.Perm fs) (hkeys : (keys es).Nodup) :
    ofList es = ofList fs := by
  refine ofList_eq_of_lastValue fun k v => ?_
  have hkeys' : (keys fs).Nodup := (h.map Prod.fst).nodup_iff.mp hkeys
  rw [lastValue_iff_mem hkeys, lastValue_iff_mem hkeys', h.mem_iff]

end Entries

/-! ### Mappings as values -/

namespace Value

open Entries

variable {α : Type}

/-- **A mapping is what the last values of its keys make it.**  Built from any list of entries, it
gives for each key the last value, and nothing for other keys.  Its inspected form shows each
key of the list once, with its last value, in increasing order of the keys.  So lists with the
same last values build mappings that give the same and look the same; two orders of entries
with distinct keys are such lists. -/
theorem ofEntries_of_last_values (α : Type) :
    (∀ es : List (String × Value α),
      (∀ k v, LastValue es k v → (ofEntries es).get k = v) ∧
      (∀ k, k ∉ es.map (·.1) → (ofEntries es).get k = .none) ∧
      ∃ sorted : List (String × Value α),
        (ofEntries es).inspect = "\x7b"
          ++ ", ".intercalate (sorted.map fun e => e.1 ++ ": " ++ e.2.inspect) ++ "\x7d" ∧
        sorted.Pairwise (fun d e => d.1 < e.1) ∧
        (∀ k, k ∈ sorted.map (·.1) ↔ k ∈ es.map (·.1)) ∧
        ∀ k v, (k, v) ∈ sorted ↔ LastValue es k v) ∧
    (∀ es fs : List (String × Value α), (∀ k v, LastValue es k v ↔ LastValue fs k v) →
      (∀ k, (ofEntries es).get k = (ofEntries fs).get k) ∧
        (ofEntries es).inspect = (ofEntries fs).inspect) ∧
    ∀ es fs : List (String × Value α), es.Perm fs → (es.map (·.1)).Nodup →
      (∀ k, (ofEntries es).get k = (ofEntries fs).get k) ∧
        (ofEntries es).inspect = (ofEntries fs).inspect := by
  refine ⟨?_, ?_, ?_⟩
  · intro es
    -- the sorted entries of the mapping are the list that it shows
    refine ⟨?_, ?_, ofList es, ?_, sorted_ofList es, ?_, ?_⟩
    · intro k v h
      rw [ofEntries, get, lookup_ofList_iff.mpr h, Option.getD_some]
    · intro k h
      rw [ofEntries, get, lookup_ofList_eq_none h, Option.getD_none]
    · rw [ofEntries, inspect, inspectEntries_eq_map]
    · exact fun k => mem_keys_ofList_iff
    · exact fun k v => mem_ofList_iff
  · -- the last values decide what is built
    intro es fs h
    rw [ofEntries, ofEntries, ofList_eq_of_lastValue h]
    exact ⟨fun k => rfl, rfl⟩
  · intro es fs h hkeys
    rw [ofEntries, ofEntries, ofList_eq_of_perm h hkeys]
    exact ⟨fun k => rfl, rfl⟩

/-- The key `b` is given twice, and its last value is a mapping whose own keys are out of order; the
other list has the same entries in other places. -/
theorem ofEntries_of_last_values_nested :
    let inner : Value Unit := ofEntries [("y", .none), ("x", int 2)]
    let swapped : Value Unit := ofEntries [("x", int 2), ("y", .none)]
    let es := [("b", int 1), ("é", bool true), ("b", inner), ("a", string "x")]
    let fs := [("a", string "x"), ("b", swapped), ("é", bool true)]
    (∀ k v, LastValue es k v ↔ LastValue fs k v) ∧ fs.reverse.Perm fs ∧ LastValue es "b" inner ∧
      (ofEntries es).get "b" = inner ∧ (ofEntries fs).get "b" = inner ∧
      (ofEntries fs.reverse).get "b" = inner ∧
      (ofEntries es).inspect = "\x7ba: \"x\", b: \x7bx: 2, y: None\x7d, é: true\x7d" ∧
      (ofEntries fs.reverse).inspect = (ofEntries es).inspect := by
  intro inner swapped es fs
  have hlast : LastValue es "b" inner :=
    ⟨[("b", int 1), ("é", bool true)], [("a", string "x")], rfl, by decide⟩
  have hsame : ∀ k v, LastValue es k v ↔ LastValue fs k v := by
    -- both lists build the same sorted entries
    have hlist : ofList es = ofList fs := rfl
    intro k v
    rw [← lookup_ofList_iff, ← lookup_ofList_iff, hlist]
  have hperm : fs.reverse.Perm fs := List.reverse_perm fs
  have hkeys : (fs.reverse.map (·.1)).Nodup := by decide
  obtain ⟨hall, hlasts, horders⟩ := ofEntries_of_last_values Unit
  obtain ⟨hget, -⟩ := hall es
  obtain ⟨hgets, hlooks⟩ := hlasts es fs hsame
  obtain ⟨hgetsReversed, hlooksReversed⟩ := horders fs.reverse fs hperm hkeys
  have hb : (ofEntries es).get "b" = inner := hget "b" inner hlast
  have hbSwapped : (ofEntries fs).get "b" = inner := (hgets "b").symm.trans hb
  have hbReversed : (ofEntries fs.reverse).get "b" = inner := (hgetsReversed "b").trans hbSwapped
  exact ⟨hsame, hperm, hlast, hb, hbSwapped, hbReversed, by decide +kernel,
    hlooksReversed.trans hlooks.symm⟩

end Value

end TagExpr
