/-
TagExpr/Proofs/LabelColors.lean

The colours of labels are handed on, and decide nothing.

A label carries its colour through placing, sorting and drawing into the fragments that are drawn
for it.  No function on this way looks at it.  So each of them does the same to labels without
colours, up to the colours in what it gives:

    rows (labels without colours)  =  rows of the labels, without the colours of labels.

There is one lemma for each function that lays out rows, from the choice of the tightest label up
to the rows of a whole report.
-/
import TagExpr.Proofs.ReportPlace

namespace TagExpr

/-! ### Without the colours of labels -/

/-- The label without its colour. -/
def ReportLabel.uncolored (l : ReportLabel) : ReportLabel :=
  { l with color := none }

/-- The placed label without its colour. -/
def PlacedLabel.uncolored (l : PlacedLabel) : PlacedLabel :=
  { l with color := none }

/-- The mark of the label without its colour. -/
def Mark.uncolored (m : Mark) : Mark :=
  { m with label := m.label.uncolored }

/-- The layout of the labels without their colours. -/
def Layout.uncolored (l : Layout) : Layout :=
  { l with labels := l.labels.map PlacedLabel.uncolored }

/-- An ink without the colour of a label. -/
def Ink.uncolored : Ink → Ink
  | label _ => label none
  | ink => ink

/-- The fragment without the colour of a label. -/
def Fragment.uncolored (f : Fragment) : Fragment :=
  { f with ink := f.ink.uncolored }

/-- The row without the colours of labels. -/
def Row.uncolored (row : Row) : Row :=
  row.map Fragment.uncolored

/-- The report with labels without colours, whose drawing writes no colours of its own. -/
def Report.uncolored (r : Report) : Report :=
  { r with
    options := { r.options with color := false }
    labels := r.labels.map ReportLabel.uncolored }

namespace Fragment

@[simp] theorem uncolored_plain (text : String) : (plain text).uncolored = plain text := rfl

@[simp] theorem uncolored_colored (color : Color) (text : String) :
    (colored color text).uncolored = colored color text := rfl

@[simp] theorem uncolored_labelled (color : Option Color) (text : String) :
    (labelled color text).uncolored = labelled none text := rfl

end Fragment

namespace Row

@[simp] theorem uncolored_nil : Row.uncolored [] = [] := rfl

@[simp] theorem uncolored_cons (f : Fragment) (row : Row) :
    Row.uncolored (f :: row) = f.uncolored :: Row.uncolored row := rfl

@[simp] theorem uncolored_append (row row' : Row) :
    Row.uncolored (row ++ row') = Row.uncolored row ++ Row.uncolored row' :=
  List.map_append

@[simp] theorem uncolored_replicate (n : Nat) (f : Fragment) :
    Row.uncolored (List.replicate n f) = List.replicate n f.uncolored :=
  List.map_replicate

theorem uncolored_flatMap {β : Type} (xs : List β) (draw : β → Row) :
    Row.uncolored (xs.flatMap draw) = xs.flatMap fun x => Row.uncolored (draw x) :=
  List.map_flatMap

end Row

/-! ### Labels and marks -/

namespace PlacedLabel

variable (l : PlacedLabel)

@[simp] theorem color_uncolored : l.uncolored.color = none := rfl

@[simp] theorem start_uncolored : l.uncolored.start = l.start := rfl

@[simp] theorem stop_uncolored : l.uncolored.stop = l.stop := rfl

@[simp] theorem text_uncolored : l.uncolored.text = l.text := rfl

@[simp] theorem isMulti_uncolored : l.uncolored.isMulti = l.isMulti := rfl

@[simp] theorem last_uncolored : l.uncolored.last = l.last := rfl

@[simp] theorem length_uncolored : l.uncolored.length = l.length := rfl

@[simp] theorem covers_uncolored (off : Nat) : l.uncolored.covers off = l.covers off := rfl

@[simp] theorem touches_uncolored (line : SourceLine) :
    l.uncolored.touches line = l.touches line := rfl

end PlacedLabel

@[simp] theorem Mark.column_uncolored (m : Mark) : m.uncolored.column = m.column := rfl

@[simp] theorem Mark.label_uncolored (m : Mark) : m.uncolored.label = m.label.uncolored := rfl

theorem placeLabel?_uncolored (s : Source) (l : ReportLabel) :
    placeLabel? s l.uncolored = (placeLabel? s l).map PlacedLabel.uncolored := by
  have hstart : l.uncolored.start = l.start := rfl
  have hlast : l.uncolored.last = l.last := rfl
  simp only [placeLabel?, hstart, hlast]
  rcases s.lineAt? l.start with - | first
  · rfl
  · rcases s.lineAt? l.last with - | last <;> rfl

theorem placeLabels_uncolored (s : Source) (labels : List ReportLabel) :
    placeLabels s (labels.map ReportLabel.uncolored)
      = (placeLabels s labels).map PlacedLabel.uncolored := by
  rw [placeLabels, List.filterMap_map, placeLabels, List.map_filterMap]
  exact congrArg (List.filterMap · labels) (funext (placeLabel?_uncolored s))

@[simp] theorem tightest?_uncolored (off : Nat) (labels : List PlacedLabel) :
    tightest? off (labels.map PlacedLabel.uncolored)
      = (tightest? off labels).map PlacedLabel.uncolored := by
  induction labels with
  | nil => rfl
  | cons l labels ih =>
    simp only [List.map_cons, tightest?, ih, PlacedLabel.covers_uncolored]
    rcases l.covers off with - | -
    · rfl
    · -- the tightest label further on stands back behind one that is at most as long
      rcases tightest? off labels with - | k
      · rfl
      · by_cases hk : k.length < l.length <;> simp [hk]

theorem insertMark_uncolored (m : Mark) (marks : List Mark) :
    insertMark m.uncolored (marks.map Mark.uncolored)
      = (insertMark m marks).map Mark.uncolored := by
  induction marks with
  | nil => rfl
  | cons n marks ih =>
    have hbefore : m.uncolored.before n.uncolored = m.before n := rfl
    simp only [List.map_cons, insertMark, hbefore, ih]
    split <;> rfl

theorem sortMarks_uncolored (marks : List Mark) :
    sortMarks (marks.map Mark.uncolored) = (sortMarks marks).map Mark.uncolored := by
  induction marks with
  | nil => rfl
  | cons m marks ih =>
    show insertMark m.uncolored (sortMarks (marks.map Mark.uncolored)) = _
    rw [ih, insertMark_uncolored]
    rfl

theorem multiMark_uncolored (multi : Option PlacedLabel) (line : SourceLine) :
    multiMark (multi.map PlacedLabel.uncolored) line
      = (multiMark multi line).map Mark.uncolored := by
  rcases multi with - | l
  · rfl
  · by_cases hl : line.covers l.last = true <;>
      simp [multiMark, hl, Mark.uncolored]

theorem lineMarks_uncolored (labels : List PlacedLabel) (line : SourceLine) :
    lineMarks (labels.map PlacedLabel.uncolored) line
      = (lineMarks labels line).map Mark.uncolored := by
  simp only [lineMarks, List.filter_map, List.map_map, Function.comp_def]
  rfl

theorem marksOn_uncolored (multi : Option PlacedLabel) (labels : List PlacedLabel)
    (line : SourceLine) :
    marksOn (multi.map PlacedLabel.uncolored) (labels.map PlacedLabel.uncolored) line
      = (marksOn multi labels line).map Mark.uncolored := by
  rw [marksOn, multiMark_uncolored, lineMarks_uncolored, ← List.map_append, sortMarks_uncolored,
    marksOn]

namespace Layout

variable (l : Layout) (line : SourceLine) (marks : List Mark)

/-! ### The margin -/

theorem multi?_uncolored : l.uncolored.multi? = l.multi?.map PlacedLabel.uncolored := by
  rw [multi?, uncolored, List.find?_map]
  rfl

theorem uncolored_strokeCell (color : Option Color) (s : Stroke) :
    Row.uncolored (l.strokeCell color s) = l.strokeCell none s := by
  unfold strokeCell
  rcases s.characters with - | ⟨a, - | b⟩
  · rfl
  · rfl
  · by_cases hl : l.compact = true <;> simp [hl]

/-- The cells beside a line, under a rule that does not look at colours. -/
theorem strokes_uncolored {rule : PlacedLabel → Stroke × Stroke}
    (hrule : ∀ p, rule p.uncolored = rule p) :
    l.uncolored.strokes line rule = Row.uncolored (l.strokes line rule) := by
  -- the colour of a cell is given with it, the layout adds none
  have hcell (color : Option Color) (s : Stroke) :
      l.uncolored.strokeCell color s = l.strokeCell color s := rfl
  rw [strokes, multi?_uncolored, strokes]
  rcases l.multi? with - | p
  · rfl
  · simp only [Option.map_some, PlacedLabel.touches_uncolored, hrule, hcell, Row.uncolored_append,
      uncolored_strokeCell, PlacedLabel.color_uncolored]

@[simp] theorem uncolored_numberGutter (n : Nat) :
    Row.uncolored (l.numberGutter n) = l.numberGutter n := rfl

@[simp] theorem uncolored_barGutter : Row.uncolored l.barGutter = l.barGutter := rfl

@[simp] theorem uncolored_gapGutter : Row.uncolored l.gapGutter = l.gapGutter := rfl

@[simp] theorem barGutter_uncolored : l.uncolored.barGutter = l.barGutter := rfl

@[simp] theorem compact_uncolored : l.uncolored.compact = l.compact := rfl

/-! ### A line and the rows of its marks -/

theorem sourceFragment_uncolored (labels : List PlacedLabel) (off : Nat) (text : String) :
    sourceFragment (labels.map PlacedLabel.uncolored) off text
      = (sourceFragment labels off text).uncolored := by
  rw [sourceFragment, tightest?_uncolored, sourceFragment]
  rcases tightest? off labels with - | p <;> rfl

theorem labels_uncolored :
    (marks.map Mark.uncolored).map (·.label)
      = (marks.map (·.label)).map PlacedLabel.uncolored := by
  rw [List.map_map, List.map_map]
  rfl

theorem sourceCells_uncolored : l.uncolored.sourceCells line (marks.map Mark.uncolored)
    = Row.uncolored (l.sourceCells line marks) := by
  have hlabels : l.uncolored.multi?.toList ++ (marks.map Mark.uncolored).map (·.label)
      = (l.multi?.toList ++ marks.map (·.label)).map PlacedLabel.uncolored := by
    rw [multi?_uncolored, labels_uncolored, List.map_append]
    rcases l.multi? with - | p <;> rfl
  have hcells : l.uncolored.cells line = l.cells line := rfl
  simp only [sourceCells, hlabels, hcells, Row.uncolored_flatMap, sourceCell,
    sourceFragment_uncolored, Row.uncolored_replicate]

theorem attached?_uncolored (row c : Nat) :
    attached? (marks.map Mark.uncolored) row c = (attached? marks row c).map Mark.uncolored := by
  rw [attached?, ← List.map_drop, List.find?_map]
  rfl

theorem reach_uncolored :
    l.uncolored.reach line (marks.map Mark.uncolored) = l.reach line marks := by
  simp only [reach, List.foldl_map]
  rfl

@[simp] theorem uncolored_column (width : Nat) (first second : Fragment) :
    Row.uncolored (column width first second) = column width first.uncolored second.uncolored := by
  unfold column
  split
  · rfl
  · rw [Row.uncolored_cons, Row.uncolored_replicate]

theorem barColumn_uncolored (row c width : Nat) :
    barColumn line (marks.map Mark.uncolored) row c width
      = Row.uncolored (barColumn line marks row c width) := by
  have hunder : tightest? (line.offset + c)
        (((marks.map Mark.uncolored).map (·.label)).filter fun p => !p.isMulti)
      = (tightest? (line.offset + c)
          ((marks.map (·.label)).filter fun p => !p.isMulti)).map PlacedLabel.uncolored := by
    rw [labels_uncolored, List.filter_map, tightest?_uncolored]
    rfl
  simp only [barColumn, attached?_uncolored, hunder]
  -- underlined or not in the first group, and never underlined below it
  by_cases hrow : row = 0
  · simp only [hrow, if_true]
    rcases attached? marks 0 c with - | m <;>
      rcases tightest? (line.offset + c) _ with - | p <;> simp
  · simp only [hrow, if_false]
    rcases attached? marks row c with - | m <;> simp

theorem textColumn_uncolored (row : Nat) (m : Mark) (c width : Nat) :
    textColumn (marks.map Mark.uncolored) row m.uncolored c width
      = Row.uncolored (textColumn marks row m c width) := by
  dsimp +instances only [textColumn, Mark.column_uncolored, Mark.label_uncolored,
    PlacedLabel.isMulti_uncolored, PlacedLabel.color_uncolored]
  rw [attached?_uncolored]
  -- below the mark, along its branch, or above the branch of a later mark
  split
  · simp
  · split
    · simp
    · rcases attached? marks row c with - | n <;> simp

theorem columns_uncolored (widths : List Nat) {draw draw' : Nat → Nat → Row}
    (hdraw : ∀ c width, draw' c width = Row.uncolored (draw c width)) :
    columns widths draw' = Row.uncolored (columns widths draw) := by
  simp only [columns, hdraw, Row.uncolored_flatMap]

theorem multiGroup_uncolored : multiGroup (marks.map Mark.uncolored) = multiGroup marks := by
  rw [multiGroup, List.findIdx?_map]
  rfl

theorem markRows_uncolored (row : Nat) (m : Mark) :
    l.uncolored.markRows line (marks.map Mark.uncolored) row m.uncolored
      = (l.markRows line marks row m).map Row.uncolored := by
  have hwidths (count : Nat) : l.uncolored.widths line count = l.widths line count := rfl
  have hstrokes (own : Nat) (isText : Bool) :
      l.uncolored.strokes line (rowStrokes line row own isText)
        = Row.uncolored (l.strokes line (rowStrokes line row own isText)) :=
    l.strokes_uncolored line fun _ => rfl
  simp only [markRows, barGutter_uncolored, compact_uncolored, hstrokes, hwidths, reach_uncolored,
    multiGroup_uncolored, columns_uncolored _ (barColumn_uncolored line marks row),
    columns_uncolored _ (textColumn_uncolored marks row m)]
  -- a compact report has the row with the text only
  by_cases hl : l.compact = true <;> simp [hl]

theorem labelledRows_uncolored (n : Nat) :
    l.uncolored.labelledRows n line (marks.map Mark.uncolored)
      = (l.labelledRows n line marks).map Row.uncolored := by
  have hgutter : l.uncolored.numberGutter (n + 1) = l.numberGutter (n + 1) := rfl
  have hstrokes : l.uncolored.strokes line (sourceStrokes line)
      = Row.uncolored (l.strokes line (sourceStrokes line)) :=
    l.strokes_uncolored line fun _ => rfl
  -- marks are numbered in their order, which colours do not change
  simp only [labelledRows, hgutter, hstrokes, sourceCells_uncolored, List.map_cons,
    Row.uncolored_append, uncolored_numberGutter, List.zipIdx_map, List.flatMap_map,
    List.map_flatMap, Prod.map_fst, Prod.map_snd, id_eq, markRows_uncolored]

/-! ### All lines -/

theorem marksOn_layout_uncolored :
    marksOn l.uncolored.multi? l.uncolored.labels line
      = (marksOn l.multi? l.labels line).map Mark.uncolored := by
  rw [multi?_uncolored]
  exact marksOn_uncolored _ _ _

theorem isBare_uncolored : l.uncolored.isBare line = l.isBare line := by
  rw [isBare, marksOn_layout_uncolored, List.isEmpty_map, multi?_uncolored, isBare]
  rcases l.multi? with - | p <;> rfl

theorem gapRows_uncolored : l.uncolored.gapRows line = (l.gapRows line).map Row.uncolored := by
  have hstrokes : l.uncolored.strokes line gapStrokes
      = Row.uncolored (l.strokes line gapStrokes) := l.strokes_uncolored line fun _ => rfl
  have hgap : l.uncolored.gapGutter = l.gapGutter := rfl
  -- what decides between the kinds of gap is the place of the label of several lines
  have hany : (l.uncolored.multi?.any fun p => p.covers line.offset)
      = l.multi?.any fun p => p.covers line.offset := by
    rw [multi?_uncolored]
    rcases l.multi? with - | p <;> rfl
  simp only [gapRows, hany, hstrokes, hgap, barGutter_uncolored, compact_uncolored]
  split
  · simp
  · by_cases hl : l.compact = true <;> simp [hl]

theorem linesRows_uncolored (n : Nat) (bare : Bool) (lines : List SourceLine) :
    l.uncolored.linesRows n bare lines = (l.linesRows n bare lines).map Row.uncolored := by
  induction lines generalizing n bare with
  | nil => rfl
  | cons line rest ih =>
    simp only [linesRows, isBare_uncolored, marksOn_layout_uncolored, labelledRows_uncolored,
      gapRows_uncolored, ih]
    by_cases hline : l.isBare line = true
    · cases bare <;> simp [hline]
    · simp [hline]

theorem lineRange_uncolored (s : Source) (labels : List PlacedLabel) :
    lineRange s (labels.map PlacedLabel.uncolored) = lineRange s labels := by
  simp only [lineRange, List.map_map]
  rfl

theorem lineRange_layout_uncolored :
    lineRange l.uncolored.source l.uncolored.labels = lineRange l.source l.labels :=
  lineRange_uncolored l.source l.labels

theorem drawnLines_uncolored : l.uncolored.drawnLines = l.drawnLines := by
  rw [drawnLines, lineRange_layout_uncolored, drawnLines]
  rfl

theorem drawsTab_uncolored : l.uncolored.drawsTab = l.drawsTab := by
  simp only [drawsTab, drawnLines_uncolored, isBare_uncolored]

/-! ### Whole reports -/

theorem remarkRows_uncolored (word : String) (text : Option String) :
    l.uncolored.remarkRows word text = (l.remarkRows word text).map Row.uncolored := by
  have hsource : l.uncolored.source = l.source := rfl
  have hstrokes (first : SourceLine) : l.uncolored.strokes first (remarkStrokes first)
      = Row.uncolored (l.strokes first (remarkStrokes first)) :=
    l.strokes_uncolored first fun _ => rfl
  simp only [remarkRows, barGutter_uncolored, compact_uncolored, hsource, hstrokes]
  split
  · by_cases hl : l.compact = true <;> simp [hl]
  · rfl

theorem bodyRows_uncolored (r : Report) :
    l.uncolored.bodyRows r.uncolored = (l.bodyRows r).map Row.uncolored := by
  have hplace : l.uncolored.placeRow r.uncolored.filename r.uncolored.offset
      = Row.uncolored (l.placeRow r.filename r.offset) := rfl
  -- the rows around the lines are in the colours of the margin, of which labels have none
  have hhead : l.uncolored.headRows = l.headRows.map Row.uncolored := by
    obtain ⟨source, labels, compact, tabWidth, numberWidth⟩ := l
    cases compact <;> rfl
  have hfoot : l.uncolored.footRows = l.footRows.map Row.uncolored := by
    obtain ⟨source, labels, compact, tabWidth, numberWidth⟩ := l
    cases compact <;> rfl
  simp only [bodyRows, lineRange_layout_uncolored, hplace, hhead, hfoot, drawnLines_uncolored,
    linesRows_uncolored, remarkRows_uncolored, List.map_append, List.map_cons]
  rfl

end Layout

namespace Report

theorem layout_uncolored (r : Report) (source : String) :
    r.uncolored.layout source = (r.layout source).uncolored := by
  simp only [layout, uncolored, placeLabels_uncolored, Layout.new, Layout.uncolored,
    Layout.lineRange_uncolored]

/-- **The colours of labels decide nothing.**  Without them a report has the same rows, and in these
no colours of labels. -/
theorem rows_uncolored (r : Report) (source : String) :
    r.uncolored.rows source = (r.rows source).map (List.map Row.uncolored) := by
  have hlabels : ((r.layout source).uncolored).labels = [] ↔ (r.layout source).labels = [] :=
    List.map_eq_nil_iff
  have htitle : r.uncolored.titleRow = Row.uncolored r.titleRow := rfl
  have htab : r.uncolored.options.tabWidth = r.options.tabWidth := rfl
  simp only [rows, layout_uncolored, hlabels, htitle, htab, Layout.drawsTab_uncolored,
    Layout.bodyRows_uncolored]
  split
  · rfl
  · split <;> rfl

end Report

/-- A configuration without colours switches off both the colours of labels and those of the
drawing, and nothing else. -/
theorem Diagnostic.report_uncolored (d : Diagnostic) (filename : String) (compact : Bool)
    (tabWidth : Nat) :
    d.report filename ⟨false, compact, tabWidth⟩
      = (d.report filename ⟨true, compact, tabWidth⟩).uncolored := by
  simp only [report, Report.uncolored, ReportConfig.drawing, List.map_map]
  rfl

end TagExpr
