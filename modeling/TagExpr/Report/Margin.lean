/-
TagExpr/Report/Margin.lean

The margin to the left of the source.

It has a gutter, with the line's number or a bar, and, if a label of several lines is drawn,
two cells that carry the label from its first line down to its last:

    ╭─▶   on the first line           │     on the lines between
    ├─▶   on the last line            ╰──   on the row of its text
-/
import TagExpr.Report.Placement

namespace TagExpr

/-- What all rows of a report share. -/
structure Layout where
  source : Source
  labels : List PlacedLabel
  compact : Bool
  tabWidth : Nat
  /-- Columns of a line number. -/
  numberWidth : Nat

namespace Layout

/-- The label of several lines that is drawn. -/
def multi? (d : Layout) : Option PlacedLabel :=
  d.labels.find? (·.isMulti)

/-- A column that only a roomy layout has. -/
def room (d : Layout) : String :=
  if d.compact then "" else " "

/-! ### The gutter -/

/-- A text at the right end of a field. -/
def padLeft (width : Nat) (text : String) : String :=
  String.ofList (List.replicate (width - text.length) ' ') ++ text

/-- Spaces in the place of a line number. -/
def numberSpace (d : Layout) : String :=
  String.ofList (List.replicate (d.numberWidth + 1) ' ')

/-- The gutter of a line of the source, with its number counted from one. -/
def numberGutter (d : Layout) (n : Nat) : Row :=
  [.plain " ", .colored .margin (padLeft d.numberWidth (toString n) ++ " │"), .plain d.room]

/-- The gutter of a row that belongs to the line above. -/
def barGutter (d : Layout) : Row :=
  [.plain " ", .colored .skippedMargin (d.numberSpace ++ "│"), .plain d.room]

/-- The gutter in the place of lines that are left out. -/
def gapGutter (d : Layout) : Row :=
  [.plain " ", .colored .skippedMargin (d.numberSpace ++ "┆"), .plain d.room]

/-! ### The label of several lines -/

/-- What one of the two cells shows; the second character is drawn if there is room. -/
inductive Stroke where
  | blank
  | bar
  | gapBar
  | begins
  | ends
  | arrow
  | corner
  | dash

/-- The two characters of a cell; the second may be uncoloured space. -/
def Stroke.characters : Stroke → Option (String × Option String)
  | blank => none
  | bar => some ("│", none)
  | gapBar => some ("┆", none)
  | begins => some ("╭", some "─")
  | ends => some ("├", some "─")
  | arrow => some ("▶", some " ")
  | corner => some ("╰", some "─")
  | dash => some ("─", some "─")

/-- A cell in the colour of its label. -/
def strokeCell (d : Layout) (color : Option Color) (s : Stroke) : Row :=
  match s.characters with
  | none => [.plain " ", .plain d.room]
  | some (a, none) => [.labelled color a, .plain d.room]
  | some (a, some b) => .labelled color a :: if d.compact then [] else [.labelled color b]

/-- The two cells, chosen by a rule that applies where the label touches the line. -/
def strokes (d : Layout) (line : SourceLine) (rule : PlacedLabel → Stroke × Stroke) : Row :=
  match d.multi? with
  | none => []
  | some l =>
    let (first, second) := if l.touches line then rule l else (.blank, .blank)
    d.strokeCell l.color first ++ d.strokeCell l.color second

/-- Beside a line of the source: the label begins or ends here, or passes by. -/
def sourceStrokes (line : SourceLine) (l : PlacedLabel) : Stroke × Stroke :=
  if line.covers l.start then (.begins, .arrow)
  else if line.covers l.last then (.ends, .arrow)
  else (.bar, .blank)

/-- Beside lines that are left out. -/
def gapStrokes (_ : PlacedLabel) : Stroke × Stroke :=
  (.gapBar, .blank)

/-- Beside a row below a line, in the group of the mark numbered `row`: the label passes by, or goes
down from its first line, or comes down to its text in the group `own`. -/
def rowStrokes (line : SourceLine) (row own : Nat) (isText : Bool) (l : PlacedLabel) :
    Stroke × Stroke :=
  if line.covers l.start || !line.covers l.last || row < own then (.bar, .blank)
  else if row = own then if isText then (.corner, .dash) else (.bar, .blank)
  else (.blank, .blank)

/-- Beside help and note, below the last line: only a label that does not begin on the first line of
the source passes by. -/
def remarkStrokes (line : SourceLine) (l : PlacedLabel) : Stroke × Stroke :=
  if line.covers l.start then (.blank, .blank) else (.bar, .blank)

end Layout

end TagExpr
