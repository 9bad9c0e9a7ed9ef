/-
TagExpr/Proofs/ReportPlace.lean

The place that a report names in its header.

The header of a report has the name of the file and a place in it, `filename:line:column`, and
a text has at most one such header.  Spans are byte offsets, and so is the beginning of a
diagnostic; but the report takes the number as one of characters.  So for a diagnostic with a
label on its own span, which begins with the character numbered `i`,

    the report names the place of this character
      iff  all characters before it have one byte, and the label is drawn,

and the label is drawn iff its span ends, counted in characters, at most one beyond the end of
the source.  Behind a character of several bytes the report names a later place, or none.
-/
import TagExpr.Proofs.SourceLines
import TagExpr.Report.Basic

namespace TagExpr

/-! ### Headers -/

/-- The row with the name of the file and a place in it, behind a gutter. -/
def headerRow (gutter : Nat) (filename : String) (line column : Nat) : Row :=
  [.plain (String.ofList (List.replicate gutter ' ')), .colored .margin "╭",
    .colored .margin "─", .colored .margin "[",
    .plain (filename ++ ":" ++ (toString line ++ ":" ++ toString column)), .colored .margin "]"]

/-- The title of the reports of a diagnostic, whatever their file and their configuration. -/
def Diagnostic.titleRow (d : Diagnostic) : Row :=
  (d.report "" .plain).titleRow

theorem Diagnostic.titleRow_report (d : Diagnostic) (filename : String) (config : ReportConfig) :
    (d.report filename config).titleRow = d.titleRow := rfl

/-- The text is a report of the diagnostic with this place in its header. -/
def Diagnostic.Locates (d : Diagnostic) (color : Bool) (filename text : String)
    (line column : Nat) : Prop :=
  ∃ gutter rest, text = writeRows color [d.titleRow]
    ++ (writeRows color [headerRow gutter filename line column] ++ rest)

theorem writeRows_append (color : Bool) (rows rows' : List Row) :
    writeRows color (rows ++ rows') = writeRows color rows ++ writeRows color rows' := by
  rw [writeRows, List.map_append, String.join_append, writeRows, writeRows]

/-- A text is cut in one way where a property of characters first fails. -/
theorem append_cons_inj_of_all {p : Char → Bool} {xs ys us vs : List Char} {x y : Char}
    (hxs : ∀ c ∈ xs, p c = true) (hx : p x = false) (hys : ∀ c ∈ ys, p c = true)
    (hy : p y = false) (h : xs ++ x :: us = ys ++ y :: vs) : xs = ys ∧ x :: us = y :: vs := by
  -- both sides keep the property just as long
  have htake := congrArg (List.takeWhile p) h
  rw [List.takeWhile_append_of_pos hxs, List.takeWhile_append_of_pos hys,
    List.takeWhile_cons_of_neg (by simp [hx]), List.takeWhile_cons_of_neg (by simp [hy]),
    List.append_nil, List.append_nil] at htake
  subst htake
  exact ⟨rfl, List.append_cancel_left h⟩

/-- A written fragment begins with its text, or with an escape sequence. -/
theorem exists_toList_write (color : Bool) (c : Color) (a : Char) (as : List Char) :
    ∃ x xs, (Fragment.write color (.colored c (String.ofList (a :: as)))).toList = x :: xs ∧
      (x = '\x1b' ∨ x = a) := by
  cases color with
  | true =>
    have hwrite : Fragment.write true (.colored c (String.ofList (a :: as)))
        = Fragment.escaped c (String.ofList (a :: as)) := rfl
    simp only [hwrite, Fragment.escaped, String.toList_append]
    exact ⟨_, _, rfl, .inl rfl⟩
  | false => exact ⟨a, as, String.toList_ofList, .inr rfl⟩

theorem isDigit_of_mem_toString {n : Nat} {c : Char} (hc : c ∈ (toString n).toList) :
    c.isDigit = true := by
  rw [Nat.toString_eq_repr, Nat.toList_repr] at hc
  exact Nat.isDigit_of_mem_toDigits (by decide) (by decide) hc

/-- A number followed by something else than a digit can be read back. -/
theorem toString_append_inj {m n : Nat} {us vs : List Char} {x y : Char}
    (hx : x.isDigit = false) (hy : y.isDigit = false)
    (h : (toString m).toList ++ x :: us = (toString n).toList ++ y :: vs) :
    m = n ∧ x :: us = y :: vs := by
  have hdigits (k : Nat) : ∀ c ∈ (toString k).toList, c.isDigit = true :=
    fun _ hc => isDigit_of_mem_toString hc
  obtain ⟨hmn, hrest⟩ := append_cons_inj_of_all (hdigits m) hx (hdigits n) hy h
  rw [Nat.toString_eq_repr, Nat.toString_eq_repr, Nat.toList_repr, Nat.toList_repr] at hmn
  have := congrArg (fun ds => Nat.ofDigitChars 10 ds 0) hmn
  simp only [Nat.ofDigitChars_ten_toDigits] at this
  exact ⟨this, hrest⟩

/-- A header row between what surrounds the two numbers, which no number can be mixed up with. -/
theorem exists_toList_headerRow (color : Bool) (filename : String) :
    ∃ x xs y ys, x ≠ ' ' ∧ y.isDigit = false ∧ ∀ gutter line column,
      (writeRows color [headerRow gutter filename line column]).toList
        = List.replicate gutter ' ' ++ x :: (xs ++ (filename.toList ++
            ':' :: ((toString line).toList ++ ':' :: ((toString column).toList ++ y :: ys)))) := by
  -- the first character of a coloured fragment is its own or an escape, never a blank or a digit
  obtain ⟨x, xs, hframe, hx⟩ := exists_toList_write color .margin '╭' []
  obtain ⟨y, ys, hclose, hy⟩ := exists_toList_write color .margin ']' []
  refine ⟨x, xs ++ ((Fragment.write color (.colored .margin "─")).toList
    ++ (Fragment.write color (.colored .margin "[")).toList), y, ys ++ ['\n'], ?_, ?_, ?_⟩
  · rcases hx with rfl | rfl <;> decide
  · rcases hy with rfl | rfl <;> decide
  · intro gutter line column
    have hplain (text : String) : Fragment.write color (.plain text) = text := rfl
    have hopen : (":" : String).toList = [':'] := rfl
    have hend : ("\n" : String).toList = ['\n'] := rfl
    simp only [writeRows, headerRow, List.map_cons, List.map_nil, String.join_cons,
      String.join_nil, String.append_empty, String.toList_append, hplain, String.toList_ofList,
      hopen, hend]
    rw [show ("╭" : String) = String.ofList ['╭'] from rfl, hframe,
      show ("]" : String) = String.ofList [']'] from rfl, hclose]
    simp only [List.append_assoc, List.cons_append, List.nil_append]

/-- **A header gives one place only.** -/
theorem Diagnostic.Locates.place_eq {d : Diagnostic} {color : Bool} {filename text : String}
    {line column line' column' : Nat} (h : d.Locates color filename text line column)
    (h' : d.Locates color filename text line' column') : line = line' ∧ column = column' := by
  obtain ⟨gutter, rest, rfl⟩ := h
  obtain ⟨gutter', rest', h⟩ := h'
  obtain ⟨x, xs, y, ys, hx, hy, hrow⟩ := exists_toList_headerRow color filename
  rw [String.append_right_inj, ← String.toList_inj, String.toList_append, String.toList_append,
    hrow, hrow] at h
  simp only [List.append_assoc, List.cons_append] at h
  have hspaces (k : Nat) : ∀ c ∈ List.replicate k ' ', (c == ' ') = true := by
    intro c hc
    rw [(List.mem_replicate.mp hc).2]
    rfl
  -- the gutter, the frame, the name, then a number before a colon and one before the bracket
  obtain ⟨-, h⟩ := append_cons_inj_of_all (p := (· == ' ')) (hspaces gutter) (by simpa using hx)
    (hspaces gutter') (by simpa using hx) h
  have h := List.append_cancel_left (List.append_cancel_left (List.cons.inj h).2)
  obtain ⟨hline, h⟩ := toString_append_inj (by decide) (by decide) (List.cons.inj h).2
  obtain ⟨hcolumn, -⟩ := toString_append_inj hy hy (List.cons.inj h).2
  exact ⟨hline, hcolumn⟩

/-- A title alone is no report with a place. -/
theorem Diagnostic.not_locates_title (d : Diagnostic) (color : Bool) (filename : String)
    (line column : Nat) :
    ¬ d.Locates color filename (writeRows color [d.titleRow]) line column := by
  rintro ⟨gutter, rest, h⟩
  -- a header is longer than nothing
  obtain ⟨x, xs, y, ys, -, -, hrow⟩ := exists_toList_headerRow color filename
  have h := congrArg String.length h
  have hlength := congrArg List.length (hrow gutter line column)
  rw [String.length_toList, List.length_append, List.length_cons] at hlength
  rw [String.length_append, String.length_append] at h
  omega

/-! ### The header that is drawn -/

/-- The first row below the title of a report that draws labels has the place of the number that the
report was built with. -/
theorem Layout.exists_bodyRows_eq {l : Layout} {r : Report} {line column : Nat}
    (h : l.source.location? r.offset = some (line, column)) :
    ∃ gutter more, l.bodyRows r = headerRow gutter r.filename line column :: more := by
  have hrow : l.placeRow r.filename r.offset
      = headerRow (l.numberWidth + 2) r.filename line column := by
    simp only [placeRow, gutterSpace, Source.printLocation, h, headerRow]
  rw [bodyRows, hrow]
  exact ⟨_, _, rfl⟩

namespace Report

variable {r : Report} {source : String}

/-- A report without labels to draw is a title. -/
theorem draw_eq_title (hplaced : (r.layout source).labels = []) :
    r.draw source = .ok (writeRows r.options.color [r.titleRow]) := by
  simp only [draw, rows, hplaced, if_true, Except.map]

/-- What is drawn of a report that has labels to draw, if it can be drawn. -/
theorem eq_writeRows_of_placed {text : String} (hplaced : (r.layout source).labels ≠ [])
    (htext : r.draw source = .ok text) :
    text = writeRows r.options.color (r.titleRow :: (r.layout source).bodyRows r) := by
  simp only [draw, rows, hplaced, if_false] at htext
  split at htext
  · cases htext
  · exact (Except.ok.inj htext).symm

/-- A report can be drawn if tabs have columns. -/
theorem exists_draw (htab : r.options.tabWidth ≠ 0) (source : String) :
    ∃ text, r.draw source = .ok text := by
  simp only [draw, rows, htab, false_and, if_false]
  split
  · exact ⟨_, rfl⟩
  · exact ⟨_, rfl⟩

end Report

section Render

variable {source filename : String} {config : ReportConfig} {d : Diagnostic} {text : String}

/-- Without a reversed label a report is built, and then drawn. -/
theorem Diagnostic.render_eq_draw (hreversed : d.hasReversedLabel = false)
    (source filename : String) (config : ReportConfig) :
    d.render source filename config = (d.report filename config).draw source := by
  rw [render, hreversed]
  rfl

/-- A report that has labels to draw has this place in its header. -/
theorem Diagnostic.locates_of_placed (hreversed : d.hasReversedLabel = false)
    (hplaced : ((d.report filename config).layout source).labels ≠ [])
    (htext : d.render source filename config = .ok text) {line column : Nat}
    (hplace : (Source.ofString source).location? d.span.start.val = some (line, column)) :
    d.Locates config.color filename text line column := by
  rw [render_eq_draw hreversed] at htext
  -- the header is the first row below the title, at the start of the span
  obtain ⟨gutter, more, hbody⟩ : ∃ gutter more,
      ((d.report filename config).layout source).bodyRows (d.report filename config)
        = headerRow gutter filename line column :: more := Layout.exists_bodyRows_eq hplace
  refine ⟨gutter, writeRows config.color more, ?_⟩
  rw [Report.eq_writeRows_of_placed hplaced htext, titleRow_report, hbody, ← writeRows_append,
    ← writeRows_append]
  rfl

/-- A diagnostic is drawn if no label is reversed and tabs have columns. -/
theorem Diagnostic.exists_render (hreversed : d.hasReversedLabel = false)
    (htab : config.tabWidth ≠ 0) (source filename : String) :
    ∃ text, d.render source filename config = .ok text := by
  rw [render_eq_draw hreversed]
  exact Report.exists_draw htab source

theorem Diagnostic.hasReversedLabel_eq_false_of_le {l : Label} (hlabels : d.labels = [l])
    (hl : l.span.start.val ≤ l.span.stop.val) : d.hasReversedLabel = false := by
  rw [hasReversedLabel, hlabels, List.any_cons, List.any_nil, Bool.or_false,
    decide_eq_false_iff_not]
  exact Nat.not_lt_of_le hl

theorem Diagnostic.hasReversedLabel_eq_false {message : String}
    (hlabels : d.labels = [⟨d.span, message⟩]) (hspan : d.span.start.val < d.span.stop.val) :
    d.hasReversedLabel = false :=
  hasReversedLabel_eq_false_of_le hlabels (Nat.le_of_lt hspan)

/-- A label of some length is placed unless its last character, counted as such, is more than one
beyond the end of the source. -/
theorem placeLabel?_eq_none_iff {s : Source} (hs : s.lines ≠ []) {l : ReportLabel}
    (hl : l.start < l.stop) : placeLabel? s l = none ↔ s.length + 1 < l.stop := by
  have hlast : s.lineAt? l.last = none ↔ s.length + 1 < l.stop := by
    simp only [Source.lineAt?, ReportLabel.last, hs, ne_eq, not_false_eq_true, and_true,
      ite_eq_right_iff, reduceCtorEq, imp_false]
    omega
  rw [← hlast]
  -- if the last character has a line, so has the first, which is no later
  rcases hn : s.lineAt? l.last with - | n
  · rcases hk : s.lineAt? l.start with - | k <;> simp [placeLabel?, hk, hn]
  · have hoff := (Source.lineAt?_eq_some_iff.mp hn).1.1
    have hle : l.start ≤ l.last := Nat.le_max_right _ _
    obtain ⟨k, hk⟩ : ∃ k, s.lineAt? l.start = some k :=
      ⟨_, Source.lineAt?_eq_some_iff.mpr ⟨⟨Nat.le_trans hle hoff, hs⟩, rfl⟩⟩
    simp [placeLabel?, hk, hn]

/-- The report of a diagnostic with one label, of some length, has nothing to draw only if the label
ends more than one beyond the end of the source. -/
theorem Diagnostic.labels_layout_eq_nil_iff (hlines : (Source.ofString source).lines ≠ [])
    {l : Label} (hlabels : d.labels = [l]) (hl : l.span.start.val < l.span.stop.val) :
    ((d.report filename config).layout source).labels = []
      ↔ source.length + 1 < l.span.stop.val := by
  have hone : (d.report filename config).labels = [l.report config.color 0] := by
    simp only [report, hlabels, List.zipIdx_cons, List.zipIdx_nil, List.map_cons, List.map_nil]
  have hnone : placeLabel? (.ofString source) (l.report config.color 0) = none
      ↔ source.length + 1 < l.span.stop.val := placeLabel?_eq_none_iff hlines hl
  rw [← hnone]
  simp only [Report.layout, Layout.new, placeLabels, hone, List.filterMap_cons,
    List.filterMap_nil]
  split <;> simp [*]

end Render

/-! ### Bytes taken for characters -/

/-- **A report counts the bytes of its span as characters.**  Let the diagnostic have a label on
its own span, which covers some text and so begins with a character of the source.  A report
names the place of the character that has the span's first byte as its number, unless the
span ends too far behind the source for the label to be drawn; then it is a title.  So it names
the place where the span begins exactly if all characters before have one byte and the label is
drawn. -/
theorem render_locates_iff (source filename : String) (config : ReportConfig) (d : Diagnostic)
    {message covered : String} (hlabels : d.labels = [⟨d.span, message⟩])
    (hcovered : d.span.text? source = some covered) (hne : covered ≠ "") :
    ∃ i line column, BeginsAtByte source d.span.start.val i ∧ StandsAt source i line column ∧
      (config.tabWidth ≠ 0 → ∃ text, d.render source filename config = .ok text) ∧
      ∀ text, d.render source filename config = .ok text →
        (d.span.stop.val ≤ source.length + 1 → ∃ l c,
          (Source.ofString source).location? d.span.start.val = some (l, c) ∧
          d.Locates config.color filename text l c) ∧
        (source.length + 1 < d.span.stop.val → text = writeRows config.color [d.titleRow]) ∧
        (d.Locates config.color filename text line column ↔
          (∀ c ∈ source.toList.take i, c.utf8Size = 1) ∧ d.span.stop.val ≤ source.length + 1) := by
  obtain ⟨hspan, i, hbegins⟩ := Span.exists_beginsAtByte hcovered hne
  obtain ⟨line, column, hstands⟩ := exists_standsAt hbegins.1
  have hlines := Source.lines_ne_nil_of_standsAt hstands
  have hreversed := Diagnostic.hasReversedLabel_eq_false hlabels hspan
  have hplaced : ((d.report filename config).layout source).labels = []
      ↔ source.length + 1 < d.span.stop.val :=
    Diagnostic.labels_layout_eq_nil_iff hlines hlabels hspan
  refine ⟨i, line, column, hbegins, hstands,
    fun htab => Diagnostic.exists_render hreversed htab source filename, fun text htext => ?_⟩
  by_cases hstop : d.span.stop.val ≤ source.length + 1
  · have hstart : d.span.start.val ≤ (Source.ofString source).length :=
      Nat.le_of_lt_succ (Nat.lt_of_lt_of_le hspan hstop)
    -- the start of the span, taken for the number of a character, is one within the source
    obtain ⟨l, c, hplace⟩ := Source.exists_location? hstart hlines
    have hlocates := Diagnostic.locates_of_placed hreversed
      (mt hplaced.mp (Nat.not_lt_of_le hstop)) htext hplace
    have hfound := Source.location?_of_standsAt hstands
    refine ⟨fun _ => ⟨l, c, hplace, hlocates⟩, fun h => absurd hstop (Nat.not_le_of_lt h), ?_⟩
    -- the header has the place of one number, and no two numbers have one place
    rw [← hbegins.eq_iff, and_iff_left hstop]
    constructor
    · intro h
      obtain ⟨rfl, rfl⟩ := hlocates.place_eq h
      exact Source.location?_inj hplace hfound
    · intro h
      rw [h, hfound, Option.some.injEq, Prod.mk.injEq] at hplace
      rwa [hplace.1, hplace.2]
  · -- without a label to draw, all that is left is the title
    have htitle : d.render source filename config = .ok (writeRows config.color [d.titleRow]) := by
      rw [Diagnostic.render_eq_draw hreversed]
      exact Report.draw_eq_title (hplaced.mpr (Nat.lt_of_not_le hstop))
    rw [htext, Except.ok.injEq] at htitle
    subst htitle
    refine ⟨fun h => absurd h hstop, fun _ => rfl, ?_⟩
    exact ⟨fun h => absurd h (d.not_locates_title _ _ _ _), fun h => absurd h.2 hstop⟩

/-- A diagnostic about an `x` behind a character of two bytes. -/
def wideDiagnostic : Diagnostic :=
  (Diagnostic.error .eval (.ofNat 6 7) "wide").withLabel ⟨.ofNat 6 7, "é 日"⟩

/-- The theorem at this diagnostic. -/
theorem render_locates_iff_wide :
    wideDiagnostic.labels = [⟨wideDiagnostic.span, "é 日"⟩] ∧
    wideDiagnostic.span.text? "é {{ x }}" = some "x" ∧ "x" ≠ "" ∧
    ∃ i line column, BeginsAtByte "é {{ x }}" 6 i ∧ StandsAt "é {{ x }}" i line column ∧
      ∃ text, wideDiagnostic.render "é {{ x }}" "greeting.mustache" .plain = .ok text ∧
        (wideDiagnostic.Locates false "greeting.mustache" text line column ↔
          (∀ c ∈ "é {{ x }}".toList.take i, c.utf8Size = 1) ∧
            wideDiagnostic.span.stop.val ≤ "é {{ x }}".length + 1) := by
  have hcovered : wideDiagnostic.span.text? "é {{ x }}" = some "x" := by decide
  refine ⟨rfl, hcovered, by decide, ?_⟩
  obtain ⟨i, line, column, hbegins, hstands, hrender, h⟩ := render_locates_iff "é {{ x }}"
    "greeting.mustache" .plain wideDiagnostic rfl hcovered (by decide)
  obtain ⟨text, htext⟩ := hrender (by decide)
  exact ⟨i, line, column, hbegins, hstands, text, htext, (h text htext).2.2⟩

/-- The `x` is the sixth character of its line and begins at byte 6; the report says that it is the
seventh. -/
theorem locates_behind_wide :
    wideDiagnostic.labels = [⟨wideDiagnostic.span, "é 日"⟩] ∧
    wideDiagnostic.span.text? "é {{ x }}" = some "x" ∧
    BeginsAtByte "é {{ x }}" wideDiagnostic.span.start.val 5 ∧ StandsAt "é {{ x }}" 5 1 6 ∧
    ∃ text, wideDiagnostic.render "é {{ x }}" "greeting.mustache" .plain = .ok text ∧
      wideDiagnostic.Locates false "greeting.mustache" text 1 7 ∧
      ¬ wideDiagnostic.Locates false "greeting.mustache" text 1 6 := by
  obtain ⟨text, htext⟩ : ∃ text,
      wideDiagnostic.render "é {{ x }}" "greeting.mustache" .plain = .ok text :=
    Diagnostic.exists_render (by decide) (by decide) _ _
  have hlocates : wideDiagnostic.Locates false "greeting.mustache" text 1 7 :=
    Diagnostic.locates_of_placed (by decide) (by decide) htext (by decide)
  refine ⟨rfl, by decide, ⟨by decide, by decide⟩, ?_, text, htext, hlocates, fun h => ?_⟩
  · exact ⟨[], ['é', ' ', '{', '{', ' '], 'x', [' ', '}', '}'], [], by decide, rfl, rfl, rfl⟩
  · exact absurd (hlocates.place_eq h).2 (by decide)

end TagExpr
