/-
TagExpr/Proofs/ReportColors.lean

Colours are decoration.

A configuration switches colours in two places: labels get colours when the report is built, and
the drawing writes its own.  A report without colours is built with other labels than the one in
colours, but the colours of labels decide nothing (LabelColors.lean), so both have the same rows
up to inks.

The rows of a report are made of the texts of the diagnostic, the characters of the source, the
name of the file, numbers and the strokes that frame them.  If no text and no character that
goes into a report is an escape character, none is in its rows: there is one lemma for each
function that lays out rows, from the gutters up to the whole body.  So the report without
colours has no escape characters, and the one in colours is the same report once the escape
sequences of its colours are deleted.
-/
import TagExpr.Proofs.EscapeSequences

namespace TagExpr

namespace Layout

/-- No text that a layout draws has an escape character: neither a line nor the text of a label. -/
structure TextsUnescaped (l : Layout) : Prop where
  lines : ∀ line ∈ l.source.lines, '\x1b' ∉ line.text
  labels : ∀ p ∈ l.labels, Unescaped p.text

variable {l : Layout}

/-! ### The margin -/

theorem not_mem_replicate {c : Char} (hc : c ≠ '\x1b') (n : Nat) :
    '\x1b' ∉ List.replicate n c :=
  fun h => hc (List.eq_of_mem_replicate h).symm

theorem unescaped_room (l : Layout) : Unescaped l.room := by
  unfold room
  split <;> decide

theorem unescaped_gutterSpace (l : Layout) : Unescaped l.gutterSpace :=
  unescaped_ofList.mpr (not_mem_replicate (by decide) _)

theorem unescaped_numberSpace (l : Layout) : Unescaped l.numberSpace :=
  unescaped_ofList.mpr (not_mem_replicate (by decide) _)

theorem unescaped_numberGutter (l : Layout) (n : Nat) : Row.Unescaped (l.numberGutter n) := by
  have hpad : '\x1b' ∉ List.replicate (l.numberWidth - n.repr.length) ' ' :=
    not_mem_replicate (by decide) _
  simp +decide [numberGutter, padLeft, hpad, l.unescaped_room]

theorem unescaped_barGutter (l : Layout) : Row.Unescaped l.barGutter := by
  simp +decide [barGutter, l.unescaped_numberSpace, l.unescaped_room]

theorem unescaped_gapGutter (l : Layout) : Row.Unescaped l.gapGutter := by
  simp +decide [gapGutter, l.unescaped_numberSpace, l.unescaped_room]

theorem unescaped_strokeCell (l : Layout) (color : Option Color) (s : Stroke) :
    Row.Unescaped (l.strokeCell color s) := by
  have hroom := l.unescaped_room
  cases s <;> simp +decide [strokeCell, Stroke.characters, hroom] <;> split <;> simp +decide

theorem unescaped_strokes (l : Layout) (line : SourceLine)
    (rule : PlacedLabel → Stroke × Stroke) : Row.Unescaped (l.strokes line rule) := by
  unfold strokes
  split
  · exact Row.unescaped_nil
  · exact Row.unescaped_append.mpr ⟨l.unescaped_strokeCell _ _, l.unescaped_strokeCell _ _⟩

/-! ### A line of the source -/

theorem char_ne_of_mem_cells {line : SourceLine} (hline : '\x1b' ∉ line.text) :
    ∀ cell ∈ l.cells line, cell.char ≠ '\x1b' := by
  intro cell hcell
  obtain ⟨⟨ch, c⟩, hch, rfl⟩ := List.mem_map.mp hcell
  have hmem : ch ∈ line.text := by
    have hshown : ch ∈ shownText line := List.fst_mem_of_mem_zipIdx hch
    rw [shownText, dropTrailingBlanks, List.mem_reverse] at hshown
    exact List.mem_reverse.mp ((List.dropWhile_sublist _).mem hshown)
  have hne : ch ≠ '\x1b' := fun h => hline (h ▸ hmem)
  have hspace : ' ' ≠ '\x1b' := by decide
  show (l.cellOf c ch).char ≠ '\x1b'
  -- a tab and other blanks are shown as spaces, and the rest as it is
  unfold cellOf
  split
  · exact hspace
  · split
    · exact hspace
    · exact hne

theorem unescaped_sourceCell (labels : List PlacedLabel) (off : Nat) {cell : Cell}
    (hcell : cell.char ≠ '\x1b') : Row.Unescaped (sourceCell labels off cell) := by
  intro f hf
  rw [List.eq_of_mem_replicate hf]
  have htext : Unescaped cell.char.toString := by simpa [Unescaped] using hcell.symm
  unfold sourceFragment
  split
  · exact htext
  · exact htext

theorem unescaped_sourceCells {line : SourceLine} (hline : '\x1b' ∉ line.text)
    (marks : List Mark) : Row.Unescaped (l.sourceCells line marks) := by
  intro f hf
  obtain ⟨⟨cell, c⟩, hcell, hf⟩ := List.mem_flatMap.mp hf
  exact unescaped_sourceCell _ _
    (char_ne_of_mem_cells hline cell (List.fst_mem_of_mem_zipIdx hcell)) f hf

/-! ### Rows below a line -/

theorem unescaped_column (width : Nat) {first second : Fragment} (hfirst : first.Unescaped)
    (hsecond : second.Unescaped) : Row.Unescaped (column width first second) := by
  unfold column
  split
  · exact Row.unescaped_nil
  · refine Row.unescaped_cons.mpr ⟨hfirst, fun f hf => ?_⟩
    rw [List.eq_of_mem_replicate hf]
    exact hsecond

theorem unescaped_barColumn (line : SourceLine) (marks : List Mark) (row c width : Nat) :
    Row.Unescaped (barColumn line marks row c width) := by
  simp only [barColumn]
  split <;> refine unescaped_column width ?_ ?_ <;> simp +decide

theorem unescaped_textColumn (marks : List Mark) (row : Nat) (m : Mark) (c width : Nat) :
    Row.Unescaped (textColumn marks row m c width) := by
  simp only [textColumn]
  split
  · refine unescaped_column width ?_ ?_ <;> simp +decide
  · split
    · refine unescaped_column width ?_ ?_ <;> simp +decide
    · split <;> refine unescaped_column width ?_ ?_ <;> simp +decide

theorem unescaped_columns (widths : List Nat) {draw : Nat → Nat → Row}
    (hdraw : ∀ c width, (draw c width).Unescaped) : Row.Unescaped (columns widths draw) := by
  intro f hf
  obtain ⟨⟨width, c⟩, -, hf⟩ := List.mem_flatMap.mp hf
  exact hdraw c width f hf

/-- The marks of a line are those of labels of the layout. -/
theorem label_mem_of_mem_marksOn {line : SourceLine} {m : Mark}
    (hm : m ∈ marksOn l.multi? l.labels line) : m.label ∈ l.labels := by
  rw [marksOn, mem_sortMarks, List.mem_append] at hm
  rcases hm with hm | hm
  · -- the mark of the label of several lines, or that of a label of this line
    unfold multiMark at hm
    split at hm
    · next p hp =>
      split at hm
      · rw [List.mem_singleton.mp hm]
        exact List.mem_of_find?_eq_some hp
      · cases hm
    · cases hm
  · obtain ⟨p, hp, rfl⟩ := List.mem_map.mp hm
    exact (List.mem_filter.mp hp).1

theorem unescaped_markRows (line : SourceLine) (marks : List Mark) (row : Nat) {m : Mark}
    (hm : Unescaped m.label.text) :
    ∀ r ∈ l.markRows line marks row m, r.Unescaped := by
  have hspace : Unescaped " " := by decide
  have hbars := unescaped_columns (l.widths line (l.reach line marks))
    (unescaped_barColumn line marks row)
  have hbranch := unescaped_columns (l.widths line (l.reach line marks))
    (unescaped_textColumn marks row m)
  intro r hr
  simp only [markRows] at hr
  -- a compact report has only the row that branches off to the text
  split at hr
  · rw [List.mem_singleton.mp hr]
    simp [unescaped_barGutter, unescaped_strokes, hbranch, hspace, hm]
  · simp only [List.mem_cons, List.not_mem_nil, or_false] at hr
    rcases hr with rfl | rfl
    · simp [unescaped_barGutter, unescaped_strokes, hbars]
    · simp [unescaped_barGutter, unescaped_strokes, hbranch, hspace, hm]

theorem TextsUnescaped.labelledRows (h : l.TextsUnescaped) (n : Nat) {line : SourceLine}
    (hline : '\x1b' ∉ line.text) :
    ∀ r ∈ l.labelledRows n line (marksOn l.multi? l.labels line), r.Unescaped := by
  intro r hr
  rw [Layout.labelledRows, List.mem_cons] at hr
  rcases hr with rfl | hr
  · simp [unescaped_numberGutter, unescaped_strokes, unescaped_sourceCells hline]
  · obtain ⟨⟨m, row⟩, hm, hr⟩ := List.mem_flatMap.mp hr
    have hlabel := label_mem_of_mem_marksOn (List.fst_mem_of_mem_zipIdx hm)
    exact unescaped_markRows line _ row (h.labels _ hlabel) r hr

theorem unescaped_gapRows (line : SourceLine) : ∀ r ∈ l.gapRows line, r.Unescaped := by
  intro r hr
  unfold gapRows at hr
  split at hr
  · rw [List.mem_singleton.mp hr]
    simp [unescaped_gapGutter, unescaped_strokes]
  · split at hr
    · cases hr
    · rw [List.mem_singleton.mp hr]
      exact l.unescaped_barGutter

theorem TextsUnescaped.linesRows (h : l.TextsUnescaped) (n : Nat) (bare : Bool)
    {lines : List SourceLine} (hlines : ∀ line ∈ lines, '\x1b' ∉ line.text) :
    ∀ r ∈ l.linesRows n bare lines, r.Unescaped := by
  induction lines generalizing n bare with
  | nil => exact nofun
  | cons line rest ih =>
    obtain ⟨hline, hrest⟩ := List.forall_mem_cons.mp hlines
    intro r hr
    unfold Layout.linesRows at hr
    -- of bare lines in a row only the first leaves a gap
    split at hr
    · rcases List.mem_append.mp hr with hr | hr
      · split at hr
        · cases hr
        · exact unescaped_gapRows line r hr
      · exact ih _ _ hrest r hr
    · rcases List.mem_append.mp hr with hr | hr
      · exact h.labelledRows n hline r hr
      · exact ih _ _ hrest r hr

/-! ### Around the lines -/

theorem unescaped_printLocation (s : Source) (off : Nat) :
    Unescaped (s.printLocation off) := by
  have hcolon : Unescaped ":" := by decide
  unfold Source.printLocation
  split
  · simp [hcolon]
  · decide

theorem unescaped_placeRow (l : Layout) {filename : String} (hname : Unescaped filename)
    (off : Nat) : Row.Unescaped (l.placeRow filename off) := by
  simp +decide [placeRow, l.unescaped_gutterSpace, unescaped_printLocation, hname]

theorem unescaped_headRows (l : Layout) : ∀ r ∈ l.headRows, r.Unescaped := by
  intro r hr
  unfold headRows at hr
  split at hr
  · cases hr
  · rw [List.mem_singleton.mp hr]
    simp +decide [l.unescaped_gutterSpace]

theorem unescaped_footRows (l : Layout) : ∀ r ∈ l.footRows, r.Unescaped := by
  intro r hr
  unfold footRows at hr
  split at hr
  · cases hr
  · rw [List.mem_singleton.mp hr]
    have hline := not_mem_replicate (show '─' ≠ '\x1b' by decide) (l.numberWidth + 2)
    simp +decide [hline]

theorem unescaped_remarkRows (l : Layout) {word : String} (hword : Unescaped word)
    {text : Option String} (htext : ∀ t ∈ text, Unescaped t) :
    ∀ r ∈ l.remarkRows word text, r.Unescaped := by
  intro r hr
  unfold remarkRows at hr
  split at hr
  · next t first rest _ =>
    have ht := htext t rfl
    have hcolon : Unescaped ": " := by decide
    dsimp only at hr
    split at hr
    · rw [List.mem_singleton.mp hr]
      simp [unescaped_barGutter, unescaped_strokes, hword, hcolon, ht]
    · simp only [List.mem_cons, List.not_mem_nil, or_false] at hr
      rcases hr with rfl | rfl
      · simp [unescaped_barGutter, unescaped_strokes]
      · simp [unescaped_barGutter, unescaped_strokes, hword, hcolon, ht]
  · cases hr

end Layout

/-! ### Whole reports -/

/-- No text of the diagnostic has an escape character. -/
structure Diagnostic.TextsUnescaped (d : Diagnostic) : Prop where
  message : Unescaped d.message
  labels : ∀ l ∈ d.labels, Unescaped l.message
  notes : ∀ note ∈ d.notes, Unescaped note
  help : ∀ help ∈ d.help, Unescaped help

theorem text_mem_of_mem_withOffsets {line : SourceLine} {off : Nat} {ls : List (List Char)}
    (h : line ∈ withOffsets off ls) : line.text ∈ ls := by
  induction ls generalizing off with
  | nil => cases h
  | cons l ls ih =>
    rcases List.mem_cons.mp h with rfl | h
    · exact List.mem_cons_self
    · exact List.mem_cons_of_mem _ (ih h)

/-- The lines of a source are parts of it. -/
theorem mem_of_mem_lines {text : String} {line : SourceLine}
    (hline : line ∈ (Source.ofString text).lines) {c : Char} (hc : c ∈ line.text) :
    c ∈ text.toList := by
  rw [← flatten_splitLines text.toList]
  exact List.mem_flatten_of_mem (text_mem_of_mem_withOffsets hline) hc

/-- What is placed of a label has its text. -/
theorem exists_label_of_mem_placeLabels {s : Source} {labels : List ReportLabel}
    {p : PlacedLabel} (hp : p ∈ placeLabels s labels) : ∃ l ∈ labels, p.text = l.text := by
  obtain ⟨l, hl, hp⟩ := List.mem_filterMap.mp hp
  refine ⟨l, hl, ?_⟩
  simp only [placeLabel?, Option.bind_eq_bind, Option.bind_eq_some_iff, Option.pure_def,
    Option.some.injEq] at hp
  obtain ⟨first, -, last, -, rfl⟩ := hp
  rfl

/-- No text of the report has an escape character. -/
structure Report.TextsUnescaped (r : Report) : Prop where
  filename : Unescaped r.filename
  message : Unescaped r.message
  code : ∀ code ∈ r.code, Unescaped code
  labels : ∀ l ∈ r.labels, Unescaped l.text
  note : ∀ note ∈ r.note, Unescaped note
  help : ∀ help ∈ r.help, Unescaped help

/-- The report of a diagnostic has no other texts than the diagnostic, the code and the name of the
file. -/
theorem Diagnostic.TextsUnescaped.report {d : Diagnostic} (hd : d.TextsUnescaped)
    {filename : String} (hname : Unescaped filename) (config : ReportConfig) :
    (d.report filename config).TextsUnescaped where
  filename := hname
  message := hd.message
  code code hcode := by
    obtain ⟨c, -, rfl⟩ := Option.map_eq_some_iff.mp hcode
    cases c <;> decide
  labels l hl := by
    obtain ⟨⟨label, i⟩, hlabel, rfl⟩ := List.mem_map.mp hl
    exact hd.labels label (List.fst_mem_of_mem_zipIdx hlabel)
  note note hnote := by
    rw [d.note_report filename config] at hnote
    exact hd.notes note (List.mem_of_getLast? hnote)
  help := hd.help

namespace Report

variable {r : Report} {source : String}

theorem textsUnescaped_layout (hr : r.TextsUnescaped) (hsource : Unescaped source) :
    (r.layout source).TextsUnescaped where
  lines _ hline hmem := hsource (mem_of_mem_lines hline hmem)
  labels p hp := by
    obtain ⟨l, hl, htext⟩ := exists_label_of_mem_placeLabels hp
    rw [htext]
    exact hr.labels l hl

theorem unescaped_titleRow (hr : r.TextsUnescaped) : Row.Unescaped r.titleRow := by
  have hkind : Unescaped r.kind.title.1 := by cases r.kind <;> decide
  unfold titleRow
  rcases hcode : r.code with - | code
  · simp +decide [hkind, hr.message]
  · simp +decide [hkind, hr.message, hr.code code hcode]

theorem unescaped_bodyRows {l : Layout} (hl : l.TextsUnescaped) (hr : r.TextsUnescaped) :
    ∀ row ∈ l.bodyRows r, row.Unescaped := by
  have hdrawn : ∀ line ∈ l.drawnLines, '\x1b' ∉ line.text := by
    intro line hline
    exact hl.lines line (List.mem_of_mem_take (List.mem_of_mem_drop hline))
  intro row hrow
  simp only [Layout.bodyRows, List.mem_append, List.mem_cons, List.cons_append] at hrow
  rcases hrow with rfl | (((hrow | hrow) | hrow) | hrow) | hrow
  · exact l.unescaped_placeRow hr.filename _
  · exact l.unescaped_headRows row hrow
  · exact hl.linesRows _ _ hdrawn row hrow
  · exact l.unescaped_remarkRows (by decide) hr.help row hrow
  · exact l.unescaped_remarkRows (by decide) hr.note row hrow
  · exact l.unescaped_footRows row hrow

/-- No row of a report has an escape character. -/
theorem unescaped_rows (hr : r.TextsUnescaped) (hsource : Unescaped source) {rs : List Row}
    (hrows : r.rows source = .ok rs) : ∀ row ∈ rs, row.Unescaped := by
  have htitle := unescaped_titleRow hr
  unfold rows at hrows
  dsimp only at hrows
  split at hrows
  · obtain rfl := Except.ok.inj hrows
    exact List.forall_mem_singleton.mpr htitle
  · split at hrows
    · cases hrows
    · obtain rfl := Except.ok.inj hrows
      exact List.forall_mem_cons.mpr
        ⟨htitle, unescaped_bodyRows (textsUnescaped_layout hr hsource) hr⟩

/-- A report without any colours and one that writes all it has are drawn from the same rows, up to
the colours of labels. -/
theorem exists_rows_of_draw (hcolor : r.options.color = true) {colored : String}
    (h : r.draw source = .ok colored) :
    ∃ rs, r.rows source = .ok rs ∧ colored = writeRows true rs ∧
      r.uncolored.draw source = .ok (writeRows false (rs.map Row.uncolored)) := by
  rcases hrows : r.rows source with fault | rs
  · rw [draw, hrows] at h
    cases h
  · rw [draw, hrows, hcolor] at h
    refine ⟨rs, rfl, (Except.ok.inj h).symm, ?_⟩
    rw [draw, rows_uncolored, hrows]
    rfl

end Report

/-- **Colours are decoration.**  Let no label be reversed, let tabs have columns, and let no text of
the diagnostic, the source or the name of the file have an escape character.  Then both reports,
without colours and in colours, are drawn.  The one without colours has no escape characters,
and the one in colours is the same text once the escape sequences of its colours are deleted. -/
theorem render_eq_without_colors (source filename : String) (d : Diagnostic) (compact : Bool)
    (tabWidth : Nat) (hlabels : ∀ l ∈ d.labels, l.span.start.val ≤ l.span.stop.val)
    (htab : 1 ≤ tabWidth) (hsource : Unescaped source) (hname : Unescaped filename)
    (hd : d.TextsUnescaped) :
    ∃ plain colored, d.render source filename ⟨false, compact, tabWidth⟩ = .ok plain ∧
      d.render source filename ⟨true, compact, tabWidth⟩ = .ok colored ∧
      '\x1b' ∉ plain.toList ∧ withoutColors colored.toList = plain.toList := by
  have hreversed : d.hasReversedLabel = false := by
    rw [Diagnostic.hasReversedLabel, List.any_eq_false]
    intro l hl
    simpa using hlabels l hl
  let r := d.report filename ⟨true, compact, tabWidth⟩
  have hcolumns : r.options.tabWidth ≠ 0 := Nat.ne_of_gt htab
  -- both reports are drawn from the rows of the one in colours
  obtain ⟨colored, hcolored⟩ := Report.exists_draw hcolumns source
  obtain ⟨rs, hrows, rfl, hplain⟩ := Report.exists_rows_of_draw rfl hcolored
  rw [← d.report_uncolored] at hplain
  have hclean := Report.unescaped_rows (hd.report hname _) hsource hrows
  refine ⟨_, _, (d.render_eq_draw hreversed ..).trans hplain,
    (d.render_eq_draw hreversed ..).trans hcolored, ?_, ?_⟩
  -- one is their texts as it stands, the other once escape sequences are deleted
  · rw [writeRows_false_uncolored]
    exact unescaped_rowsText hclean
  · rw [writeRows_false_uncolored]
    exact withoutColors_writeRows true hclean

/-- A report with a label inside another one, one on a further line, and help. -/
theorem render_eq_without_colors_nested :
    let source := "\x7b\x7b shout(\tname) \x7d\x7d\nbye"
    let d := (((Diagnostic.error .eval (.ofNat 3 15) "Missing filter").withLabel
      ⟨.ofNat 3 15, "this call"⟩).withLabel ⟨.ofNat 3 8, "no such filter"⟩).withLabel
      ⟨.ofNat 19 22, "the end"⟩ |>.withCode .missingFilter
    (∀ l ∈ d.labels, l.span.start.val ≤ l.span.stop.val) ∧ Unescaped source ∧
    d.TextsUnescaped ∧
    ∃ plain colored, d.render source "a.mustache" ⟨false, false, 4⟩ = .ok plain ∧
      d.render source "a.mustache" ⟨true, false, 4⟩ = .ok colored ∧
      '\x1b' ∉ plain.toList ∧ withoutColors colored.toList = plain.toList := by
  intro source d
  have hlabels : ∀ l ∈ d.labels, l.span.start.val ≤ l.span.stop.val := by decide
  have hsource : Unescaped source := by decide
  have hd : d.TextsUnescaped := ⟨by decide, by decide, by decide, by decide⟩
  exact ⟨hlabels, hsource, hd, render_eq_without_colors source "a.mustache" d false 4 hlabels
    (by decide) hsource (by decide) hd⟩

end TagExpr
