/-
TagExpr/Proofs/Appearance.lean

What equal values show of themselves.

Equal values are of one kind and give equal values for a key.  They also have the same inspected
form, with one exception: the two zeros are equal and are written `0` and `-0`.  A zero can stand
at any depth below sequences and mappings; `OccursIn` says what stands there.  Where -0 does
not occur, and where clusters of one identity are one object,

    a.equal b   →   a = b.

The order in which the entries of a mapping were given does not show: two mappings are equal iff
their lists of entries have the same keys with equal last values.
-/
import TagExpr.Proofs.Equality
import TagExpr.Proofs.Mappings

namespace TagExpr

/-! ### Scalars -/

namespace Binary64

/-- The negative zero. -/
def minusZero : Binary64 := ⟨0x8000000000000000⟩

/-- A zero is the positive or the negative one. -/
theorem eq_of_isZero {x : Binary64} (h : x.isZero = true) : x = ⟨0⟩ ∨ x = minusZero := by
  simp only [isZero, decide_eq_true_eq] at h
  obtain ⟨he, hf⟩ := h
  rcases hs : x.isNegative with - | -
  · exact .inl (eq_of_fields hs he hf)
  · exact .inr (eq_of_fields hs he hf)

/-- Only the two zeros are equal without being the same. -/
theorem eq_of_equal {x y : Binary64} (h : x.equal y = true) (hx : x ≠ minusZero)
    (hy : y ≠ minusZero) : x = y := by
  simp only [equal, Bool.and_eq_true, Bool.or_eq_true, decide_eq_true_eq] at h
  rcases h.2 with rfl | ⟨hzx, hzy⟩
  · rfl
  · rw [(eq_of_isZero hzx).resolve_right hx, (eq_of_isZero hzy).resolve_right hy]

end Binary64

namespace Scalar

theorem kindName_eq_of_equal {s t : Scalar} (h : s.equal t = true) : s.kindName = t.kindName := by
  match s, t, h with
  | .bool _, .bool _, _ => rfl
  | .int _, .int _, _ => rfl
  | .float _, .float _, _ => rfl
  | .str _, .str _, _ => rfl

theorem eq_of_equal {s t : Scalar} (h : s.equal t = true) (hs : s ≠ .float .minusZero)
    (ht : t ≠ .float .minusZero) : s = t := by
  match s, t, h with
  | .bool _, .bool _, h => exact congrArg Scalar.bool (of_decide_eq_true h)
  | .int _, .int _, h => exact congrArg Scalar.int (of_decide_eq_true h)
  | .float _, .float _, h =>
    exact congrArg Scalar.float (Binary64.eq_of_equal h (mt (congrArg Scalar.float) hs)
      (mt (congrArg Scalar.float) ht))
  | .str _, .str _, h => exact congrArg Scalar.str (of_decide_eq_true h)

end Scalar

namespace Value

open Entries

variable {α : Type}

/-! ### Kinds and keys -/

theorem kindName_eq_of_equal {a b : Value α} (h : a.equal b = true) : a.kindName = b.kindName := by
  unfold equal at h
  split at h
  · rfl
  · exact Scalar.kindName_eq_of_equal h
  · rfl
  · rfl
  · rfl
  · cases h

/-- Entries that are equal side by side give equal values for a key, or nothing both. -/
theorem equal_getD_lookup {xs ys : List (String × Value α)} (h : equalEntries xs ys = true)
    (k : String) : ((lookup k xs).getD .none).equal ((lookup k ys).getD .none) = true := by
  rcases hx : lookup k xs with - | v
  · rcases hy : lookup k ys with - | w
    · rfl
    · -- each of the two lists finds what the other has
      obtain ⟨v, hv, -⟩ := eachFound_of_equalEntries (equalEntries_symm h) k w hy
      rw [hx] at hv
      cases hv
  · obtain ⟨w, hw, hvw⟩ := eachFound_of_equalEntries h k v hx
    rwa [hw]

/-- Equal values other than clusters give equal values for a key. -/
theorem equal_get {a b : Value α} (h : a.equal b = true) (ha : a.cluster? = Option.none)
    (k : String) : (a.get k).equal (b.get k) = true := by
  unfold equal at h
  split at h
  · rfl
  · rfl
  · rfl
  · exact equal_getD_lookup h k
  · cases ha
  · cases h

/-! ### What occurs in a value -/

/-- A value occurs in another: as that value itself, or below sequences and mappings. -/
inductive OccursIn (u : Value α) : Value α → Prop
  | itself : OccursIn u u
  | item {x : Value α} {xs : List (Value α)} (hx : x ∈ xs) (h : OccursIn u x) :
    OccursIn u (.sequence xs)
  | entry {e : String × Value α} {es : List (String × Value α)} (he : e ∈ es)
    (h : OccursIn u e.2) : OccursIn u (.mapping es)

theorem occursIn_scalar_iff {u : Value α} {s : Scalar} :
    u.OccursIn (.scalar s) ↔ u = .scalar s := by
  constructor
  · rintro ⟨⟩
    rfl
  · rintro rfl
    exact .itself

theorem occursIn_cluster_iff {u : Value α} {c : Cluster α (Value α)} :
    u.OccursIn (.cluster c) ↔ u = .cluster c := by
  constructor
  · rintro ⟨⟩
    rfl
  · rintro rfl
    exact .itself

theorem occursIn_sequence_iff {u : Value α} {xs : List (Value α)} :
    u.OccursIn (.sequence xs) ↔ u = .sequence xs ∨ ∃ x ∈ xs, u.OccursIn x := by
  constructor
  · intro h
    cases h with
    | itself => exact .inl rfl
    | item hx h => exact .inr ⟨_, hx, h⟩
  · rintro (rfl | ⟨x, hx, h⟩)
    · exact .itself
    · exact .item hx h

theorem occursIn_mapping_iff {u : Value α} {es : List (String × Value α)} :
    u.OccursIn (.mapping es) ↔ u = .mapping es ∨ ∃ e ∈ es, u.OccursIn e.2 := by
  constructor
  · intro h
    cases h with
    | itself => exact .inl rfl
    | entry he h => exact .inr ⟨_, he, h⟩
  · rintro (rfl | ⟨e, he, h⟩)
    · exact .itself
    · exact .entry he h

/-! ### Equal and the same -/

/-- Nothing occurs in two values that can be equal without being the same: clusters of one identity
are one object, and the negative zero does not occur. -/
structure Separated (a b : Value α) : Prop where
  clusters : ∀ c d, (cluster c).OccursIn a → (cluster d).OccursIn b →
    c.identity = d.identity → c = d
  left : ¬ (float .minusZero).OccursIn a
  right : ¬ (float .minusZero).OccursIn b

theorem Separated.item {xs ys : List (Value α)} (h : Separated (.sequence xs) (.sequence ys))
    {x y : Value α} (hx : x ∈ xs) (hy : y ∈ ys) : Separated x y where
  clusters c d hc hd := h.clusters c d (.item hx hc) (.item hy hd)
  left hz := h.left (.item hx hz)
  right hz := h.right (.item hy hz)

theorem Separated.entry {xs ys : List (String × Value α)}
    (h : Separated (.mapping xs) (.mapping ys)) {d e : String × Value α} (hd : d ∈ xs)
    (he : e ∈ ys) : Separated d.2 e.2 where
  clusters c c' hc hc' := h.clusters c c' (.entry hd hc) (.entry he hc')
  left hz := h.left (.entry hd hz)
  right hz := h.right (.entry he hz)

mutual

/-- **Equal values are the same, but for zeros.** -/
theorem eq_of_equal {a b : Value α} (h : a.equal b = true) (hsep : Separated a b) : a = b := by
  match a, b, h with
  | .none, .none, _ => rfl
  | .scalar s, .scalar t, h =>
    have hs : s ≠ .float .minusZero := fun hs => hsep.left (hs ▸ .itself)
    have ht : t ≠ .float .minusZero := fun ht => hsep.right (ht ▸ .itself)
    exact congrArg scalar (Scalar.eq_of_equal h hs ht)
  | .sequence xs, .sequence ys, h =>
    exact congrArg sequence (items_eq_of_equal h fun x hx y hy => hsep.item hx hy)
  | .mapping xs, .mapping ys, h =>
    exact congrArg mapping (entries_eq_of_equal h fun d hd e he => hsep.entry hd he)
  | .cluster c, .cluster d, h =>
    exact congrArg cluster (hsep.clusters c d .itself .itself (of_decide_eq_true h))

theorem items_eq_of_equal {xs ys : List (Value α)} (h : equalItems xs ys = true)
    (hsep : ∀ x ∈ xs, ∀ y ∈ ys, Separated x y) : xs = ys := by
  match xs, ys, h with
  | [], [], _ => rfl
  | x :: xs, y :: ys, h =>
    simp only [equalItems, Bool.and_eq_true] at h
    have hfirst : x = y := eq_of_equal h.1 (hsep x List.mem_cons_self y List.mem_cons_self)
    have hrest : xs = ys :=
      items_eq_of_equal h.2 fun x' hx y' hy => hsep x' (.tail _ hx) y' (.tail _ hy)
    rw [hfirst, hrest]

theorem entries_eq_of_equal {xs ys : List (String × Value α)} (h : equalEntries xs ys = true)
    (hsep : ∀ d ∈ xs, ∀ e ∈ ys, Separated d.2 e.2) : xs = ys := by
  match xs, ys, h with
  | [], [], _ => rfl
  | (k, x) :: xs, (l, y) :: ys, h =>
    simp only [equalEntries, Bool.and_eq_true, decide_eq_true_eq] at h
    obtain ⟨rfl, hxy, hentries⟩ := h
    have hfirst : x = y :=
      eq_of_equal hxy (hsep (k, x) List.mem_cons_self (k, y) List.mem_cons_self)
    have hrest : xs = ys :=
      entries_eq_of_equal hentries fun d hd e he => hsep d (.tail _ hd) e (.tail _ he)
    rw [hfirst, hrest]

end

/-! ### Mappings by their last values -/

/-- Whatever the order of their entries, two mappings are equal iff they have the same keys with
equal last values. -/
theorem equal_ofEntries_iff_lastValue {es fs : List (String × Value α)} :
    (ofEntries es).equal (ofEntries fs) = true ↔ (∀ k, k ∈ keys es ↔ k ∈ keys fs) ∧
      ∀ k v, LastValue es k v → ∃ w, LastValue fs k w ∧ v.equal w = true := by
  have hfound : EachFound (ofList es) (ofList fs) ↔
      ∀ k v, LastValue es k v → ∃ w, LastValue fs k w ∧ v.equal w = true := by
    simp only [EachFound, lookup_ofList_iff]
  rw [← hfound]
  -- both sides hold the same keys in the same order once the entries are sorted
  constructor
  · intro h
    have hkeys : keys (ofList es) = keys (ofList fs) := keys_eq_of_equalEntries h
    refine ⟨fun k => ?_, eachFound_of_equalEntries h⟩
    rw [← mem_keys_ofList_iff, hkeys, mem_keys_ofList_iff]
  · rintro ⟨hkeys, h⟩
    refine equalEntries_of_eachFound (sorted_ofList es) ?_ h
    refine keys_eq_of_mem_iff (sorted_ofList es) (sorted_ofList fs) fun k => ?_
    rw [mem_keys_ofList_iff, mem_keys_ofList_iff, hkeys]

/-! ### Equal values together -/

/-- **Equal values look equal.**  They are of one kind, and other than clusters they give equal
values for every key.  If no negative zero occurs in them, and if clusters of one identity are
one object, they have the same inspected form.  This is so in whatever order the entries of
mappings were given, since mappings are equal iff they have the same keys with equal last
values. -/
theorem equal_values_look_equal (α : Type) :
    (∀ a b : Value α, a.equal b = true →
      a.kindName = b.kindName ∧
      (a.cluster? = Option.none → b.cluster? = Option.none →
        ∀ k, (a.get k).equal (b.get k) = true) ∧
      ((∀ c d, (cluster c).OccursIn a → (cluster d).OccursIn b →
          c.identity = d.identity → c = d) →
        ¬ (float .minusZero).OccursIn a → ¬ (float .minusZero).OccursIn b →
        a.inspect = b.inspect)) ∧
    ∀ es fs : List (String × Value α), (ofEntries es).equal (ofEntries fs) = true ↔
      (∀ k, k ∈ es.map (·.1) ↔ k ∈ fs.map (·.1)) ∧
      ∀ k v, LastValue es k v → ∃ w, LastValue fs k w ∧ v.equal w = true := by
  constructor
  · intro a b h
    refine ⟨kindName_eq_of_equal h, fun ha _ => equal_get h ha, ?_⟩
    intro hclusters ha hb
    rw [eq_of_equal h ⟨hclusters, ha, hb⟩]
  · exact fun es fs => equal_ofEntries_iff_lastValue

/-- Two mappings inside sequences, of the same entries in other orders: a cluster, and a list that
ends in the positive zero. -/
theorem equal_values_look_equal_shuffled :
    let person : Value Unit := .cluster ⟨.host 7, "Person", Option.none, fun _ => Option.none, true⟩
    let scores : Value Unit := sequence [bool true, float ⟨0⟩]
    let es := [("scores", scores), ("by", person)]
    let a := sequence [ofEntries es]
    let b := sequence [ofEntries es.reverse]
    a.equal b = true ∧ a.kindName = b.kindName ∧
      ((ofEntries es).get "by").equal ((ofEntries es.reverse).get "by") = true ∧
      a.inspect = b.inspect ∧ a.inspect = "[\x7bby: <cluster:Person>, scores: [true, 0]\x7d]" ∧
      ∃ w, LastValue es.reverse "scores" w ∧ scores.equal w = true := by
  intro person scores es a b
  obtain ⟨hlook, hmappings⟩ := equal_values_look_equal Unit
  have hequal : a.equal b = true := by decide
  have hentries : (ofEntries es).equal (ofEntries es.reverse) = true := by decide
  have hsorted : ofEntries es = mapping [("by", person), ("scores", scores)] := rfl
  have hoccurs : ∀ u, u.OccursIn a →
      u ∈ [a, ofEntries es, person, scores, bool true, float ⟨0⟩] := by
    intro u hu
    simpa [a, hsorted, scores, person, occursIn_sequence_iff, occursIn_mapping_iff,
      occursIn_scalar_iff, occursIn_cluster_iff, float, bool] using hu
  -- the only cluster is the person, so clusters of one identity are one object
  have hclusters : ∀ c d, (cluster c).OccursIn a → (cluster d).OccursIn b →
      c.identity = d.identity → c = d := by
    have hperson : ∀ c, (cluster c).OccursIn a → cluster c = person := by
      intro c hc
      simpa [a, scores, ofEntries, float, bool] using hoccurs _ hc
    intro c d hc hd _
    exact cluster.inj ((hperson c hc).trans (hperson d hd).symm)
  have hzero : ¬ (float .minusZero).OccursIn a := by
    intro hz
    simpa [a, person, scores, ofEntries, float, bool, Binary64.minusZero] using hoccurs _ hz
  obtain ⟨hkind, -, hinspect⟩ := hlook a b hequal
  obtain ⟨-, hget, -⟩ := hlook _ _ hentries
  obtain ⟨-, hvalues⟩ := (hmappings es es.reverse).mp hentries
  have hlast : LastValue es "scores" scores := ⟨[], [("by", person)], rfl, by decide⟩
  exact ⟨hequal, hkind, hget rfl rfl "by", hinspect hclusters hzero hzero, by decide +kernel,
    hvalues "scores" scores hlast⟩

/-- The negative zero is the exception. -/
example : let zeros : List (Value Unit) := [sequence [float ⟨0⟩], sequence [float .minusZero]]
    (zeros.all fun a => zeros.all fun b => a.equal b) = true ∧
      zeros.map inspect = ["[0]", "[-0]"] := by
  decide +kernel

end Value

end TagExpr
