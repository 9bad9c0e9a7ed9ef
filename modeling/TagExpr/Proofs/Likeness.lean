/-
TagExpr/Proofs/Likeness.lean

Values that evaluation can not tell apart.

A likeness relates values, filters and the identities of clusters so that nothing the
evaluator does with a value tells it from one that is like it: both are of one kind, give
like values for a key, and expose like filters or none.  So contexts whose scopes are alike
give like values for every name:

    scopes c ~ scopes c'   →   c.lookup x ~ c'.lookup x.

Two likenesses are used: equality, and likeness up to the identities of clusters.  What two
evaluations with like values have in common is said in InStep.lean.
-/
import Mathlib.Data.List.Forall2
import TagExpr.Proofs.FirstFailure
import TagExpr.Value.Equality

namespace TagExpr

variable {α : Type}

/-! ### What an expression asks of its context -/

/-- The names that an expression looks up. -/
def Expr.names : Expr → List String
  | identifier x _ => [x.name]
  | implicitIterator _ => []
  | access base _ _ => base.names
  | filtered filter argument _ _ => filter.names ++ argument.names

/-- An expression contains the implicit iterator. -/
def Expr.HasIterator : Expr → Prop
  | identifier _ _ => False
  | implicitIterator _ => True
  | access base _ _ => base.HasIterator
  | filtered filter argument _ _ => filter.HasIterator ∨ argument.HasIterator

/-! ### Likeness -/

/-- A relation of values that evaluation can not see through, with the relations of filters and
of identities that go with it. -/
structure Likeness (α : Type) where
  value : Value α → Value α → Prop
  filter : Filter α (Value α) → Filter α (Value α) → Prop
  identity : Identity → Identity → Prop
  none_none : value .none .none
  kindName_eq : ∀ {v w}, value v w → v.kindName = w.kindName
  get : ∀ {v w}, value v w → ∀ key, value (v.get key) (w.get key)
  filter? : ∀ {v w}, value v w → Option.Rel filter v.filter? w.filter?
  ofFilter : ∀ {i j f g}, identity i j → filter f g → value (.ofFilter i f) (.ofFilter j g)

/-- Results of filters that are alike; errors are equal. -/
inductive Likeness.Result (L : Likeness α) : FilterResult α → FilterResult α → Prop
  | value {v w} (h : L.value v w) : L.Result (.ok (some v)) (.ok (some w))
  | noValue : L.Result (.ok none) (.ok none)
  | error (err) : L.Result (.error err) (.error err)

namespace Likeness

variable {L : Likeness α}

/-- One of two values that are alike is no value only if the other is. -/
theorem eq_none_iff {v w : Value α} (h : L.value v w) : v = .none ↔ w = .none := by
  rw [← kindName_eq_none_iff, ← kindName_eq_none_iff, L.kindName_eq h]

/-- Contexts whose scopes are alike give like values for every name. -/
theorem value_lookup {c c' : ContextStack α} (h : List.Forall₂ L.value c.scopes c'.scopes)
    (name : String) : L.value (c.lookup name) (c'.lookup name) := by
  obtain ⟨scopes⟩ := c
  obtain ⟨scopes'⟩ := c'
  dsimp only at h
  unfold ContextStack.lookup
  induction h with
  | nil => exact L.none_none
  | @cons v w _ _ hvw _ ih =>
    have hget := L.get hvw name
    -- the walk goes past a scope exactly where it goes past the one like it
    by_cases hv : v.get name = .none
    · have hw := (eq_none_iff hget).mp hv
      simpa only [ContextStack.lookupIn, hv, hw, Value.isNone, if_true] using ih
    · have hw := mt (eq_none_iff hget).mpr hv
      rw [← Value.isNone_iff] at hv hw
      simpa only [ContextStack.lookupIn, hv, hw, Bool.false_eq_true, if_false] using hget

theorem value_top {c c' : ContextStack α} (h : List.Forall₂ L.value c.scopes c'.scopes) :
    L.value c.top c'.top := by
  obtain ⟨scopes⟩ := c
  obtain ⟨scopes'⟩ := c'
  cases h with
  | nil => exact L.none_none
  | cons hvw _ => exact hvw

/-! ### Equality -/

/-- Equality as a likeness. -/
def equality : Likeness α where
  value := Eq
  filter := Eq
  identity := Eq
  none_none := rfl
  kindName_eq h := h ▸ rfl
  get h _ := h ▸ rfl
  filter? {v w} h := by
    subst h
    rcases v.filter? with - | f
    · exact .none
    · exact .some rfl
  ofFilter hi hf := hi ▸ hf ▸ rfl

end Likeness

/-! ### Likeness up to identities -/

section Alike

variable (R : Identity → Identity → Prop) (A : α → α → Prop)

mutual

/-- Values that differ at most in the identities of clusters, which `R` relates, and in what the
actions of filters hold, which `A` relates. -/
inductive Value.Alike : Value α → Value α → Prop
  | none : Value.Alike .none .none
  | scalar (s) : Value.Alike (.scalar s) (.scalar s)
  | sequence {vs ws} (items : List.Forall₂ Value.Alike vs ws) :
    Value.Alike (.sequence vs) (.sequence ws)
  | mapping {ps qs} (entries : List.Forall₂ Value.EntryAlike ps qs) :
    Value.Alike (.mapping ps) (.mapping qs)
  | cluster {c d} (identity : R c.identity d.identity) (name : c.name = d.name)
    (filter : Option.Rel Filter.Alike c.filter d.filter)
    (get : ∀ key, Option.Rel Value.Alike (c.get? key) (d.get? key))
    (truthy : c.truthy = d.truthy) : Value.Alike (.cluster c) (.cluster d)

/-- Entries of one key with values that are alike. -/
inductive Value.EntryAlike : String × Value α → String × Value α → Prop
  | mk {v w} (key) (value : Value.Alike v w) : Value.EntryAlike (key, v) (key, w)

/-- Filters with arguments and actions that are alike. -/
inductive Filter.Alike : Filter α (Value α) → Filter α (Value α) → Prop
  | fixed {f g} (name : f.name = g.name) (arity : f.arity = g.arity)
    (bound : List.Forall₂ Value.Alike f.bound g.bound) (action : A f.action g.action) :
    Filter.Alike (.fixed f) (.fixed g)
  | custom {a b} (name) (action : A a b) : Filter.Alike (.custom name a) (.custom name b)

end

variable {R A}

theorem Value.alike_getD {o o' : Option (Value α)} (h : Option.Rel (Value.Alike R A) o o') :
    Value.Alike R A (o.getD .none) (o'.getD .none) := by
  cases h with
  | none => exact .none
  | some h => exact h

theorem Entries.alike_lookup {ps qs : List (String × Value α)}
    (h : List.Forall₂ (Value.EntryAlike R A) ps qs) (key : String) :
    Option.Rel (Value.Alike R A) (lookup key ps) (lookup key qs) := by
  induction h with
  | nil => exact .none
  | cons h _ ih =>
    obtain ⟨k, h⟩ := h
    simp only [lookup]
    split
    · exact .some h
    · exact ih

theorem Filter.Alike.name_eq {f g : Filter α (Value α)} (h : f.Alike R A g) :
    f.name = g.name := by
  cases h with
  | fixed name _ _ _ => exact name
  | custom name _ => rfl

/-- A filter that has bound nothing is like itself, exposed by a cluster that stands for itself. -/
theorem Value.alike_ofFilter_new {i : Identity} (hi : R i i) (name : String) (n : Nat) {a : α}
    (ha : A a a) :
    Value.Alike R A (.ofFilter i (.fixed (.new name n a)))
      (.ofFilter i (.fixed (.new name n a))) :=
  .cluster hi rfl (.some (.fixed rfl rfl .nil ha)) (fun _ => .none) rfl

/-- Likeness up to the identities of clusters, as `R` relates them. -/
def Likeness.upTo (R : Identity → Identity → Prop) (A : α → α → Prop) : Likeness α where
  value := Value.Alike R A
  filter := Filter.Alike R A
  identity := R
  none_none := .none
  kindName_eq h := by cases h <;> rfl
  get h key := by
    cases h with
    | none => exact .none
    | scalar s => exact .none
    | sequence items => exact .none
    | mapping entries => exact Value.alike_getD (Entries.alike_lookup entries key)
    | cluster _ _ _ get _ => exact Value.alike_getD (get key)
  filter? h := by
    cases h with
    | cluster _ _ filter _ _ => exact filter
    | _ => exact .none
  ofFilter hi hf := .cluster hi hf.name_eq (.some hf) (fun _ => .none) rfl

/-- The host does not look at identities: actions that are alike, given values that are alike,
give results that are alike. -/
structure Host.Respects (host : Host (StateM Unit) α) (R : Identity → Identity → Prop)
    (A : α → α → Prop) : Prop where
  run : ∀ {a b vs ws}, A a b → List.Forall₂ (Value.Alike R A) vs ws →
    (Likeness.upTo R A).Result (answer (host.run a vs) ()).1 (answer (host.run b ws) ()).1
  apply : ∀ {a b v w}, A a b → Value.Alike R A v w →
    (Likeness.upTo R A).Result (answer (host.apply a v) ()).1 (answer (host.apply b w) ()).1
  curry : ∀ {a b v w}, A a b → Value.Alike R A v w →
    Option.Rel (Filter.Alike R A) (answer (host.curry a v) ()).1 (answer (host.curry b w) ()).1

/-! ### Equality can not tell values that are alike -/

namespace Value

mutual

/-- Where no identity is related to two, values are as equal as those that are like them. -/
theorem equal_eq_of_alike (hR : Relator.BiUnique R) {a b a' b' : Value α} (ha : Alike R A a a')
    (hb : Alike R A b b') : a.equal b = a'.equal b' := by
  match a, a', ha, b, b', hb with
  | _, _, .none, _, _, hb => cases hb <;> rfl
  | _, _, .scalar s, _, _, hb => cases hb <;> rfl
  | .sequence vs, .sequence vs', .sequence hv, _, _, hb =>
    cases hb with
    | sequence hw => exact equalItems_eq_of_alike hR hv hw
    | _ => rfl
  | .mapping ps, .mapping ps', .mapping hp, _, _, hb =>
    cases hb with
    | mapping hq => exact equalEntries_eq_of_alike hR hp hq
    | _ => rfl
  | .cluster c, .cluster c', .cluster hc _ _ _ _, _, _, hb =>
    cases hb with
    | cluster hd _ _ _ _ =>
      -- clusters are equal by identity, and an identity is related to one only, either way
      simp only [equal, decide_eq_decide]
      constructor
      · intro h
        exact hR.2 hc (h ▸ hd)
      · intro h
        exact hR.1 hc (h ▸ hd)
    | _ => rfl

theorem equalItems_eq_of_alike (hR : Relator.BiUnique R) {vs ws vs' ws' : List (Value α)}
    (hv : List.Forall₂ (Alike R A) vs vs') (hw : List.Forall₂ (Alike R A) ws ws') :
    equalItems vs ws = equalItems vs' ws' := by
  match vs, vs', hv, ws, ws', hw with
  | [], [], .nil, _, _, hw => cases hw <;> rfl
  | v :: vs, v' :: vs', .cons hv hvs, _, _, hw =>
    cases hw with
    | nil => rfl
    | cons hw hws =>
      rw [equalItems, equalItems, equal_eq_of_alike hR hv hw, equalItems_eq_of_alike hR hvs hws]

theorem equalEntries_eq_of_alike (hR : Relator.BiUnique R)
    {ps qs ps' qs' : List (String × Value α)} (hp : List.Forall₂ (EntryAlike R A) ps ps')
    (hq : List.Forall₂ (EntryAlike R A) qs qs') :
    equalEntries ps qs = equalEntries ps' qs' := by
  match ps, ps', hp, qs, qs', hq with
  | [], [], .nil, _, _, hq => cases hq <;> rfl
  | (k, v) :: ps, (_, v') :: ps', .cons (.mk _ hv) hps, _, _, hq =>
    cases hq with
    | nil => rfl
    | cons hq hqs =>
      obtain ⟨l, hw⟩ := hq
      rw [equalEntries, equalEntries, equal_eq_of_alike hR hv hw,
        equalEntries_eq_of_alike hR hps hqs]

end

end Value

end Alike

end TagExpr
