/-
TagExpr/Report/Build.lean

Building reports from diagnostics.

A report is what the drawing works from.  It has the parts of a diagnostic as numbers and texts,
with two changes.  Labels are numbered, and the one numbered `i` gets the colour numbered `i` if
the configuration asks for colours, and none otherwise.  And there is room for one note, so each
note that is given takes the place of the one before.
-/
import TagExpr.Diagnostic.Basic
import TagExpr.Report.Config
import TagExpr.Report.Fragment

namespace TagExpr

/-- How grave a report is. -/
inductive ReportKind where
  | error
  | warning
  | advice
  deriving DecidableEq

/-- The word for a kind and its colour. -/
def ReportKind.title : ReportKind → String × Color
  | error => ("Error", .basic 31)
  | warning => ("Warning", .basic 33)
  | advice => ("Advice", .indexed 147)

/-- A note gives advice. -/
def Severity.reportKind : Severity → ReportKind
  | error => .error
  | warning => .warning
  | note => .advice

/-- A label of a report, from character `start` up to `stop`. -/
structure ReportLabel where
  start : Nat
  stop : Nat
  text : String
  color : Option Color
  deriving DecidableEq

/-- What is drawn, and how. -/
structure Report where
  options : DrawOptions
  kind : ReportKind
  filename : String
  /-- The place that the header names. -/
  offset : Nat
  message : String
  code : Option String
  labels : List ReportLabel
  note : Option String
  help : Option String

/-- The label numbered `i`, in its colour if there are colours. -/
def Label.report (colors : Bool) (i : Nat) (l : Label) : ReportLabel where
  start := l.span.start.val
  stop := l.span.stop.val
  text := l.message
  color := if colors then some (.ofLabel i) else none

namespace Diagnostic

/-- The report of a diagnostic.  Offsets are handed on as they are, and each note takes the place
of the one before. -/
def report (d : Diagnostic) (filename : String) (config : ReportConfig) : Report where
  options := config.drawing
  kind := d.severity.reportKind
  filename := filename
  offset := d.span.start.val
  message := d.message
  code := d.code.map ErrorCode.print
  labels := d.labels.zipIdx.map fun (l, i) => l.report config.color i
  note := d.notes.foldl (fun _ note => some note) none
  help := d.help

/-- A label of the diagnostic ends before it begins; no report can be built of such a one. -/
def hasReversedLabel (d : Diagnostic) : Bool :=
  d.labels.any fun l => l.span.stop.val < l.span.start.val

/-- Of several notes the last one stays. -/
theorem note_report (d : Diagnostic) (filename : String) (config : ReportConfig) :
    (d.report filename config).note = d.notes.getLast? := by
  have hlast (notes : List String) (first : Option String) :
      notes.foldl (fun _ note => some note) first = (notes.getLast? <|> first) := by
    induction notes generalizing first with
    | nil => rfl
    | cons note notes ih =>
      rw [List.foldl_cons, ih, List.getLast?_cons]
      rcases notes.getLast? with - | last <;> rfl
  rw [report, hlast]
  rcases d.notes.getLast? with - | last <;> rfl

end Diagnostic

end TagExpr
