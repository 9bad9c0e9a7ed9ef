/-
TagExpr/Report/Line.lean

A line of the source with its marks below it.

The line is drawn in the colours of the tightest labels over it.  Each mark then has a group
of rows: with room one of bars, the first of which underlines the labels, and one that
branches off to the label's text:

    name(argument)
    ──┬─ ────┬───
      ╰──────────── text of the first mark
             │
             ╰───── text of the second mark

A bar stands below a label until its own group, and a branch runs over the bars it meets.
-/
import TagExpr.Report.Margin
import TagExpr.Text.Blank
import TagExpr.Text.Width

namespace TagExpr

namespace Layout

/-! ### Columns of a line -/

/-- A character as it is drawn: how often a space, or how wide. -/
structure Cell where
  char : Char
  width : Nat

/-- The character at column `c`; a tab reaches to the next tab stop, counted in characters. -/
def cellOf (d : Layout) (c : Nat) (ch : Char) : Cell :=
  if ch = '\t' then ⟨' ', d.tabWidth - c % d.tabWidth⟩
  else if isBlank ch then ⟨' ', 1⟩
  else ⟨ch, charWidth ch⟩

/-- The drawn part of a line: all but the white space at its end. -/
def shownText (line : SourceLine) : List Char :=
  dropTrailingBlanks line.text

/-- The cells of the drawn part of a line. -/
def cells (d : Layout) (line : SourceLine) : List Cell :=
  (shownText line).zipIdx.map fun (ch, c) => d.cellOf c ch

/-- Widths of the first `count` columns; beyond the drawn part each is one. -/
def widths (d : Layout) (line : SourceLine) (count : Nat) : List Nat :=
  let drawn := (d.cells line).map (·.width)
  (drawn ++ List.replicate (count - drawn.length) 1).take count

/-- A character of the source in the colour of the tightest label over it, even if that has none. -/
def sourceFragment (labels : List PlacedLabel) (off : Nat) (text : String) : Fragment :=
  match tightest? off labels with
  | some l => .labelled l.color text
  | none => .colored .unlabelled text

/-- A cell; a space is drawn as wide as it is. -/
def sourceCell (labels : List PlacedLabel) (off : Nat) (cell : Cell) : Row :=
  let count := if cell.char = ' ' then cell.width else 1
  List.replicate count (sourceFragment labels off cell.char.toString)

/-- The drawn part of a line in colours. -/
def sourceCells (d : Layout) (line : SourceLine) (marks : List Mark) : Row :=
  let labels := d.multi?.toList ++ marks.map (·.label)
  (d.cells line).zipIdx.flatMap fun (cell, c) => sourceCell labels (line.offset + c) cell

/-! ### Rows below a line -/

/-- A column that is `width` wide: one character, then another one up to its width. -/
def column (width : Nat) (first second : Fragment) : Row :=
  if width = 0 then [] else first :: List.replicate (width - 1) second

/-- The first mark from group `row` on that is attached at a column from above. -/
def attached? (marks : List Mark) (row c : Nat) : Option Mark :=
  (marks.drop row).find? fun m => m.column = c && !m.label.isMulti

/-- The columns that the rows below a line reach over. -/
def reach (d : Layout) (line : SourceLine) (marks : List Mark) : Nat :=
  let step (n : Nat) (m : Mark) : Nat :=
    if m.label.isMulti then line.text.length else max n (m.label.stop - line.offset)
  marks.foldl step 0 + (if d.compact then 1 else 2)

/-- A column of the row of bars of group `row`; in the first group labels are underlined. -/
def barColumn (line : SourceLine) (marks : List Mark) (row c width : Nat) : Row :=
  let own := (marks.map (·.label)).filter fun l => !l.isMulti
  let under := if row = 0 then tightest? (line.offset + c) own else none
  match attached? marks row c, under with
  | some m, some _ => column width (.labelled m.label.color "┬") (.labelled m.label.color "─")
  | some m, none => column width (.labelled m.label.color "│") (.labelled m.label.color " ")
  | none, some l => column width (.labelled l.color "─") (.labelled l.color "─")
  | none, none => column width (.plain " ") (.plain " ")

/-- A column of the row that branches off to the text of mark `m`, of group `row`.  The text of a
label of several lines comes from the margin, that of any other from the mark's own column. -/
def textColumn (marks : List Mark) (row : Nat) (m : Mark) (c width : Nat) : Row :=
  let color := m.label.color
  let dash := Fragment.labelled color "─"
  if c = m.column && !m.label.isMulti then column width (.labelled color "╰") dash
  else if m.label.isMulti || m.column < c then column width dash dash
  else
    match attached? marks row c with
    | some n => column width (.labelled n.label.color "│") (.labelled color " ")
    | none => column width (.plain " ") (.plain " ")

/-- Columns one after the other, each given its number and width. -/
def columns (widths : List Nat) (draw : Nat → Nat → Row) : Row :=
  widths.zipIdx.flatMap fun (width, c) => draw c width

/-- The group of the label of several lines, or the first group. -/
def multiGroup (marks : List Mark) : Nat :=
  (marks.findIdx? (·.label.isMulti)).getD 0

/-- The rows of the mark numbered `row`. -/
def markRows (d : Layout) (line : SourceLine) (marks : List Mark) (row : Nat) (m : Mark) :
    List Row :=
  let widths := d.widths line (d.reach line marks)
  let margin (isText : Bool) :=
    d.barGutter ++ d.strokes line (rowStrokes line row (multiGroup marks) isText)
  let bars := margin false ++ columns widths (barColumn line marks row)
  let branch := margin true ++ columns widths (textColumn marks row m)
  let text := branch ++ [.plain (" " ++ m.label.text)]
  if d.compact then [text] else [bars, text]

/-- A line, numbered from zero, and the rows of its marks. -/
def labelledRows (d : Layout) (n : Nat) (line : SourceLine) (marks : List Mark) : List Row :=
  (d.numberGutter (n + 1) ++ d.strokes line (sourceStrokes line) ++ d.sourceCells line marks)
    :: marks.zipIdx.flatMap fun (m, row) => d.markRows line marks row m

/-! ### Lines without labels -/

/-- The line has nothing to draw: no mark stands there and no label of several lines begins
there. -/
def isBare (d : Layout) (line : SourceLine) : Bool :=
  (marksOn d.multi? d.labels line).isEmpty && !d.multi?.any fun l => line.covers l.start

/-- What stands for a run of bare lines, of which this is the first: a gap inside the label of
several lines, and an empty row elsewhere if there is room. -/
def gapRows (d : Layout) (line : SourceLine) : List Row :=
  if d.multi?.any fun l => l.covers line.offset then
    [d.gapGutter ++ d.strokes line gapStrokes]
  else if d.compact then []
  else [d.barGutter]

/-- The rows of consecutive lines, numbered from `n`; `bare` says that the line before is bare. -/
def linesRows (d : Layout) (n : Nat) (bare : Bool) : List SourceLine → List Row
  | [] => []
  | line :: rest =>
    if d.isBare line then
      (if bare then [] else d.gapRows line) ++ linesRows d (n + 1) true rest
    else
      d.labelledRows n line (marksOn d.multi? d.labels line) ++ linesRows d (n + 1) false rest

end Layout

end TagExpr
