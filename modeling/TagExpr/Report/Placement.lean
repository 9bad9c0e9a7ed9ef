/-
TagExpr/Report/Placement.lean

Labels in their places on the lines of a source.

A label is placed if its first and its last character are in the source; an empty label
needs its offset only.  Labels that are not placed are not drawn.  At most one label of several
lines is drawn, the first one.
-/
import TagExpr.Report.Build
import TagExpr.Report.Source

namespace TagExpr

/-- The last character, or the place of an empty label. -/
def ReportLabel.last (l : ReportLabel) : Nat :=
  max (l.stop - 1) l.start

/-- A label on the lines of a source. -/
structure PlacedLabel extends ReportLabel where
  /-- The lines of its first and last character differ. -/
  isMulti : Bool
  deriving DecidableEq

namespace PlacedLabel

/-- Number of characters. -/
def length (l : PlacedLabel) : Nat :=
  l.stop - l.start

/-- The character at an offset is labelled. -/
def covers (l : PlacedLabel) (off : Nat) : Bool :=
  l.start ≤ off && off < l.stop

/-- The label touches a line: it begins no later than the line ends and ends after its begin. -/
def touches (l : PlacedLabel) (line : SourceLine) : Bool :=
  l.start ≤ line.stop && line.offset < l.stop

end PlacedLabel

/-- Place a label. -/
def placeLabel? (source : Source) (label : ReportLabel) : Option PlacedLabel := do
  let first ← source.lineAt? label.start
  let last ← source.lineAt? label.last
  return { label with isMulti := first != last }

/-- The labels that have a place, in order. -/
def placeLabels (source : Source) (labels : List ReportLabel) : List PlacedLabel :=
  labels.filterMap (placeLabel? source)

/-- The shortest of the labels that cover an offset; of several such the first. -/
def tightest? (off : Nat) : List PlacedLabel → Option PlacedLabel
  | [] => none
  | l :: ls =>
    match l.covers off, tightest? off ls with
    | false, best => best
    | true, none => some l
    | true, some k => if k.length < l.length then some k else some l

/-! ### Marks on one line -/

/-- A label attached to a column of a line. -/
structure Mark where
  column : Nat
  label : PlacedLabel
  deriving DecidableEq

/-- Marks go from left to right; on one column the label that begins last comes first. -/
def Mark.before (a b : Mark) : Bool :=
  a.column < b.column || a.column = b.column && b.label.start ≤ a.label.start

/-- Put a mark in front of the first mark that it may come before. -/
def insertMark (a : Mark) : List Mark → List Mark
  | [] => [a]
  | b :: rest => if a.before b then a :: b :: rest else b :: insertMark a rest

/-- Marks in their order; marks that may come before each other keep theirs. -/
def sortMarks (marks : List Mark) : List Mark :=
  marks.foldr insertMark []

theorem mem_insertMark {a b : Mark} {marks : List Mark} :
    a ∈ insertMark b marks ↔ a = b ∨ a ∈ marks := by
  induction marks with
  | nil => simp [insertMark]
  | cons c rest ih =>
    unfold insertMark
    split
    · simp
    · simp only [List.mem_cons, ih]
      exact or_left_comm

/-- Sorting keeps the marks. -/
@[simp] theorem mem_sortMarks {a : Mark} {marks : List Mark} : a ∈ sortMarks marks ↔ a ∈ marks := by
  induction marks with
  | nil => rfl
  | cons b rest ih =>
    show a ∈ insertMark b (sortMarks rest) ↔ a ∈ b :: rest
    rw [mem_insertMark, ih, List.mem_cons]

/-- The mark of the label of several lines, on the line where it ends. -/
def multiMark (multi : Option PlacedLabel) (line : SourceLine) : List Mark :=
  match multi with
  | some l => if line.covers l.last then [⟨l.last - line.offset, l⟩] else []
  | none => []

/-- The marks of the labels of this line alone, each in the middle of its label. -/
def lineMarks (labels : List PlacedLabel) (line : SourceLine) : List Mark :=
  (labels.filter fun l => !l.isMulti && line.offset ≤ l.start && l.stop ≤ line.stop).map
    fun l => ⟨(l.start + l.stop) / 2 - line.offset, l⟩

/-- All marks of a line in the order in which their texts are drawn. -/
def marksOn (multi : Option PlacedLabel) (labels : List PlacedLabel) (line : SourceLine) :
    List Mark :=
  sortMarks (multiMark multi line ++ lineMarks labels line)

end TagExpr
