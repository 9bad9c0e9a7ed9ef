/-
TagExpr/Proofs/SpanCover.lean

Spans of expressions cover their parts.

An expression that the constructors have built, and whose nodes keep the spans they were built
with, has one source of spans: its leaves and its keys.  The constructors merge two spans at a
time, but merging is associative, so the span of a node is the merge of all spans below it,

    n.span = mergeAll n.leafSpans,

in whatever way the expression is nested.  Hence the span of a part lies within that of the
whole.  In a source in which every leaf and key has a text every node has one, and the text of
a part is found in that of the whole, at the offset between their starts.
-/
import TagExpr.Proofs.ByteSlices
import TagExpr.Proofs.InStep
import TagExpr.Proofs.SpanMerge

namespace TagExpr

/-! ### Texts of spans -/

namespace Span

/-- The span has a text in the source. -/
def HasText (source : String) (s : Span) : Prop :=
  (s.text? source).isSome

theorem hasText_iff {source : String} {s : Span} :
    s.HasText source ↔ s.start.val ≤ s.stop.val ∧ IsBoundary source s.start.val ∧
      IsBoundary source s.stop.val :=
  isSome_byteSlice?_iff

theorem hasText_dummy (source : String) : dummy.HasText source :=
  hasText_iff.mpr ⟨Nat.le_refl 0, isBoundary_zero source, isBoundary_zero source⟩

theorem HasText.merge {source : String} {s t : Span} (hs : s.HasText source)
    (ht : t.HasText source) : (s.merge t).HasText source := by
  by_cases hsd : s = dummy
  · rwa [hsd, dummy_merge]
  by_cases htd : t = dummy
  · rwa [htd, merge_dummy]
  rw [hasText_iff] at hs ht ⊢
  rw [merge_of_ne_dummy hsd htd, BytePos.val_least, BytePos.val_greatest]
  -- each end of the merge is an end of one of the spans
  refine ⟨by omega, ?_, ?_⟩
  · rcases Nat.le_total s.start.val t.start.val with h | h
    · rw [Nat.min_eq_left h]
      exact hs.2.1
    · rw [Nat.min_eq_right h]
      exact ht.2.1
  · rcases Nat.le_total s.stop.val t.stop.val with h | h
    · rw [Nat.max_eq_right h]
      exact ht.2.2
    · rw [Nat.max_eq_left h]
      exact hs.2.2

end Span

/-! ### Expressions that keep the spans they were built with -/

namespace Expr

/-- The expression is built by the constructors, and no node has been given another span. -/
inductive Assembled : Expr → Prop
  | identifierAt (name : String) (s : Span) : Assembled (identifierAt name s)
  | implicitIterator (s : Span) : Assembled (implicitIterator s)
  | mkAccess {base : Expr} (hbase : Assembled base) (key : Ident) : Assembled (mkAccess base key)
  | mkFiltered {filter argument : Expr} (hfilter : Assembled filter)
    (hargument : Assembled argument) (curried : Bool) :
    Assembled (mkFiltered filter argument curried)
  | call {head : Expr} {args : List Expr} {e : Expr} (hhead : Assembled head)
    (hargs : ∀ a ∈ args, Assembled a) (hcall : head.call args = some e) : Assembled e

/-- The spans of the leaves and keys of an expression, from left to right. -/
def leafSpans : Expr → List Span
  | identifier _ s => [s]
  | implicitIterator s => [s]
  | access base key _ => base.leafSpans ++ [key.span]
  | filtered filter argument _ _ => filter.leafSpans ++ argument.leafSpans

/-- Each node above the leaves stores the merge of the two spans next below it. -/
def Merged : Expr → Prop
  | identifier _ _ => True
  | implicitIterator _ => True
  | access base key s => base.Merged ∧ s = base.span.merge key.span
  | filtered filter argument _ s =>
    filter.Merged ∧ argument.Merged ∧ s = filter.span.merge argument.span

theorem Merged.call {head : Expr} {args : List Expr} {e : Expr} (hhead : head.Merged)
    (hargs : ∀ a ∈ args, a.Merged) (hcall : head.call args = some e) : e.Merged := by
  -- the chain grows at its head, one argument at a time
  induction args generalizing head with
  | nil => cases hcall
  | cons a args ih =>
    obtain ⟨ha, hrest⟩ := List.forall_mem_cons.mp hargs
    cases args with
    | nil =>
      obtain rfl := Option.some.inj hcall
      exact ⟨hhead, ha, rfl⟩
    | cons b rest =>
      have hgrown : (mkFiltered head a true).Merged := ⟨hhead, ha, rfl⟩
      exact ih hgrown hrest hcall

theorem Assembled.merged {e : Expr} (h : e.Assembled) : e.Merged := by
  induction h with
  | identifierAt name s => trivial
  | implicitIterator s => trivial
  | mkAccess _ key ih => exact ⟨ih, rfl⟩
  | mkFiltered _ _ curried ihf iha => exact ⟨ihf, iha, rfl⟩
  | call _ _ hcall ihhead ihargs => exact ihhead.call ihargs hcall

/-- **The span of a node is the merge of all spans of leaves and keys below it.** -/
theorem Merged.span_eq {e : Expr} (h : e.Merged) : e.span = Span.mergeAll e.leafSpans := by
  induction e with
  | identifier x s => exact (Span.mergeAll_singleton s).symm
  | implicitIterator s => exact (Span.mergeAll_singleton s).symm
  | access base key s ih =>
    obtain ⟨hbase, rfl⟩ := h
    rw [leafSpans, Span.mergeAll_append, ← ih hbase, Span.mergeAll_singleton, span]
  | filtered filter argument curried s ihf iha =>
    obtain ⟨hfilter, hargument, rfl⟩ := h
    rw [leafSpans, Span.mergeAll_append, ← ihf hfilter, ← iha hargument, span]

/-! ### Parts -/

/-- What goes from every node to its sides goes from an expression to all its parts. -/
theorem of_part? {P : Expr → Prop}
    (hbase : ∀ {base : Expr} {key : Ident} {s : Span}, P (.access base key s) → P base)
    (hsides : ∀ {filter argument : Expr} {curried : Bool} {s : Span},
      P (.filtered filter argument curried s) → P filter ∧ P argument)
    {e n : Expr} {path : List Branch} (he : P e) (hn : e.part? path = some n) : P n := by
  induction path generalizing e with
  | nil =>
    obtain rfl := Option.some.inj hn
    exact he
  | cons b path ih =>
    match b, e, hn with
    | .base, .access _ _ _, hn => exact ih (hbase he) hn
    | .filter, .filtered _ _ _ _, hn => exact ih (hsides he).1 hn
    | .argument, .filtered _ _ _ _, hn => exact ih (hsides he).2 hn

/-- A part of an expression that keeps its spans keeps them as well, and has its leaves and keys
among those of the whole. -/
theorem Merged.part {e n : Expr} {path : List Branch} (h : e.Merged)
    (hn : e.part? path = some n) : n.Merged ∧ n.leafSpans ⊆ e.leafSpans := by
  refine of_part? (P := fun n => n.Merged ∧ n.leafSpans ⊆ e.leafSpans) ?_ ?_
    ⟨h, List.Subset.refl _⟩ hn
  · rintro base key s ⟨⟨hbase, -⟩, hsub⟩
    exact ⟨hbase, List.Subset.trans (List.subset_append_left _ _) hsub⟩
  · rintro filter argument curried s ⟨⟨hfilter, hargument, -⟩, hsub⟩
    exact ⟨⟨hfilter, List.Subset.trans (List.subset_append_left _ _) hsub⟩,
      hargument, List.Subset.trans (List.subset_append_right _ _) hsub⟩

/-- The span of a part lies within that of the whole, dummy ones apart. -/
theorem Merged.within {e n : Expr} {path : List Branch} (h : e.Merged)
    (hn : e.part? path = some n) (hreal : n.span ≠ .dummy) : n.span.Within e.span := by
  obtain ⟨hmerged, hsub⟩ := h.part hn
  rw [hmerged.span_eq] at hreal ⊢
  rw [h.span_eq]
  exact (Span.mergeAll_within hsub hreal).2

/-- A node has a text where its leaves and keys have. -/
theorem Merged.hasText {e : Expr} (h : e.Merged) {source : String}
    (htext : ∀ s ∈ e.leafSpans, s.HasText source) : e.span.HasText source := by
  rw [h.span_eq]
  exact Span.mergeAll_induction (Span.hasText_dummy source) (fun _ _ => Span.HasText.merge) htext

/-- **Spans cover their parts.**  In an expression that keeps the spans it was built with, the span
of a node is dummy if and only if all spans of leaves and keys below it are; otherwise it goes
from the least start to the greatest stop of those that are not, and every real span of a part
of the node lies within it.  In a source in which all leaves and keys have a text, the node has
one too, and the text of such a part stands in it where the part begins. -/
theorem Assembled.spans_cover {e : Expr} (h : e.Assembled) :
    (∀ path n, e.part? path = some n →
      (n.span = .dummy ↔ ∀ s ∈ n.leafSpans, s = .dummy) ∧
      (n.span ≠ .dummy →
        IsLeast {i | ∃ s ∈ n.leafSpans, s ≠ .dummy ∧ s.start.val = i} n.span.start.val ∧
        IsGreatest {i | ∃ s ∈ n.leafSpans, s ≠ .dummy ∧ s.stop.val = i} n.span.stop.val) ∧
      ∀ below m, n.part? below = some m → m.span ≠ .dummy →
        n.span.start.val ≤ m.span.start.val ∧ m.span.stop.val ≤ n.span.stop.val) ∧
    ∀ source, (∀ s ∈ e.leafSpans, (s.text? source).isSome) →
      ∀ path n, e.part? path = some n → ∃ text, n.span.text? source = some text ∧
        ∀ below m, n.part? below = some m → m.span ≠ .dummy →
          ∃ t, m.span.text? source = some t ∧
            byteSlice? text (m.span.start.val - n.span.start.val)
              (m.span.stop.val - n.span.start.val) = some t := by
  constructor
  · -- the parts of an assembled expression store merged spans as well
    intro path n hn
    obtain ⟨hmerged, -⟩ := h.merged.part hn
    refine ⟨?_, ?_, fun below m hm hreal => hmerged.within hm hreal⟩
    · rw [hmerged.span_eq]
      exact Span.mergeAll_eq_dummy_iff
    · rw [hmerged.span_eq]
      exact Span.bounds_mergeAll
  · -- the ends of a merge are ends of leaves, which lie at boundaries of the source
    intro source htext path n hn
    obtain ⟨hmerged, hsub⟩ := h.merged.part hn
    obtain ⟨text, hn⟩ :=
      Option.isSome_iff_exists.mp (hmerged.hasText fun s hs => htext s (hsub hs))
    refine ⟨text, hn, fun below m hm hreal => ?_⟩
    obtain ⟨hpart, hbelow⟩ := hmerged.part hm
    obtain ⟨t, ht⟩ :=
      Option.isSome_iff_exists.mp (hpart.hasText fun s hs => htext s (hsub (hbelow hs)))
    obtain ⟨hstart, hstop⟩ := hmerged.within hm hreal
    exact ⟨t, ht, byteSlice?_of_within hn ht hstart hstop⟩

/-- `größe(maß.höhe, einheit)` whose second argument comes from no source.  Its argument `maß.höhe`
begins eight bytes after it. -/
theorem spans_cover_call :
    let source := "{{ größe(maß.höhe) }}"
    let height : Expr := .mkAccess (.identifierAt "maß" (.ofNat 11 15)) ⟨"höhe", .ofNat 16 21⟩
    let e : Expr := .mkFiltered (.mkFiltered (.identifierAt "größe" (.ofNat 3 10)) height true)
      (.identifierAt "einheit" .dummy) false
    e.Assembled ∧ e.part? [.filter, .argument] = some height ∧ height.span ≠ .dummy ∧
    (∀ s ∈ e.leafSpans, (s.text? source).isSome) ∧ e.span = .ofNat 3 21 ∧
    IsLeast {i | ∃ s ∈ e.leafSpans, s ≠ .dummy ∧ s.start.val = i} 3 ∧
    IsGreatest {i | ∃ s ∈ e.leafSpans, s ≠ .dummy ∧ s.stop.val = i} 21 ∧
    3 ≤ height.span.start.val ∧ height.span.stop.val ≤ 21 ∧
    e.span.text? source = some "größe(maß.höhe" ∧ height.span.text? source = some "maß.höhe" ∧
    byteSlice? "größe(maß.höhe" 8 18 = some "maß.höhe" := by
  intro source height e
  -- the spans that the call is built from
  have hassembled : e.Assembled := by
    have hargs : ∀ a ∈ [height, .identifierAt "einheit" .dummy], a.Assembled :=
      List.forall_mem_cons.mpr ⟨.mkAccess (.identifierAt _ _) _,
        List.forall_mem_singleton.mpr (.identifierAt "einheit" .dummy)⟩
    exact .call (.identifierAt "größe" (.ofNat 3 10)) hargs rfl
  have hheight : e.part? [.filter, .argument] = some height := rfl
  have hreal : height.span ≠ .dummy := by decide
  have htexts : ∀ s ∈ e.leafSpans, (s.text? source).isSome := by decide
  have htext : e.span.text? source = some "größe(maß.höhe" := by decide
  have hpart : height.span.text? source = some "maß.höhe" := by decide
  obtain ⟨hcover, hsource⟩ := hassembled.spans_cover
  obtain ⟨-, hbounds, hwithin⟩ := hcover [] e rfl
  obtain ⟨hleast, hgreatest⟩ := hbounds (by decide)
  obtain ⟨hstart, hstop⟩ := hwithin _ height hheight hreal
  obtain ⟨text, ht, hparts⟩ := hsource source htexts [] e rfl
  obtain ⟨t, ht', hslice⟩ := hparts _ height hheight hreal
  obtain rfl := Option.some.inj (htext.symm.trans ht)
  obtain rfl := Option.some.inj (hpart.symm.trans ht')
  exact ⟨hassembled, hheight, hreal, htexts, by decide, hleast, hgreatest, hstart, hstop, htext,
    hpart, hslice⟩

end Expr

end TagExpr
