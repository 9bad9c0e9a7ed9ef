/-
TagExpr/Report/Basic.lean

Reports as they are drawn under the lines of their source.

A report has a title, the place of the diagnostic, the lines that its labels touch with
their texts, then help and note.  Without a placed label it is the title alone.  It cannot be
drawn in two cases: a label that ends before it begins, and a tab on a labelled line where tabs
have no columns.
-/
import TagExpr.Report.Line

namespace TagExpr

/-- Why a report cannot be drawn. -/
inductive ReportFault where
  | reversedLabel
  | tabWithoutWidth
  deriving DecidableEq

/-! ### Title and place -/

/-- The first row: code, kind and message. -/
def Report.titleRow (r : Report) : Row :=
  let code :=
    match r.code with
    | some code => "[" ++ code ++ "] "
    | none => ""
  [.colored r.kind.title.2 (code ++ r.kind.title.1 ++ ":"), .plain (" " ++ r.message)]

/-- Line and column of an offset, or question marks. -/
def Source.printLocation (s : Source) (off : Nat) : String :=
  match s.location? off with
  | some (line, column) => toString line ++ ":" ++ toString column
  | none => "?:?"

namespace Layout

/-- Spaces as wide as the gutter. -/
def gutterSpace (d : Layout) : String :=
  String.ofList (List.replicate (d.numberWidth + 2) ' ')

/-- The row with the name of the file and the place of the diagnostic. -/
def placeRow (d : Layout) (filename : String) (off : Nat) : Row :=
  [.plain d.gutterSpace, .colored .margin "╭", .colored .margin "─", .colored .margin "[",
    .plain (filename ++ ":" ++ d.source.printLocation off), .colored .margin "]"]

/-- An empty row above the first line. -/
def headRows (d : Layout) : List Row :=
  if d.compact then [] else [[.plain d.gutterSpace, .colored .margin "│"]]

/-- The end of the margin. -/
def footRows (d : Layout) : List Row :=
  if d.compact then []
  else [[.colored .margin (String.ofList (List.replicate (d.numberWidth + 2) '─') ++ "╯")]]

/-! ### Help and note -/

/-- A remark below the lines, under its word. -/
def remarkRows (d : Layout) (word : String) (text : Option String) : List Row :=
  match text, d.source.lines with
  | some text, first :: _ =>
    let margin := d.barGutter ++ d.strokes first (remarkStrokes first)
    let remark := margin ++ [.colored .remark word, .plain (": " ++ text)]
    if d.compact then [remark] else [margin, remark]
  | _, _ => []

/-! ### The lines that are drawn -/

/-- Number of the first line that a label touches, and the number after the last one. -/
def lineRange (s : Source) (labels : List PlacedLabel) : Nat × Nat :=
  let start := ((labels.map (·.start)).min?).getD 0
  let stop := ((labels.map (·.stop)).max?).getD 0
  ((s.lineAt? start).getD 0, ((s.lineAt? (max (stop - 1) start)).map (· + 1)).getD s.lines.length)

/-- The layout of labels in a source. -/
def new (s : Source) (labels : List PlacedLabel) (options : DrawOptions) : Layout :=
  { source := s
    labels
    compact := options.compact
    tabWidth := options.tabWidth
    numberWidth := (toString (lineRange s labels).2).length }

/-- The lines of the source between the first and the last label. -/
def drawnLines (d : Layout) : List SourceLine :=
  let (first, stop) := lineRange d.source d.labels
  (d.source.lines.take stop).drop first

/-- A labelled line has a tab that is drawn. -/
def drawsTab (d : Layout) : Bool :=
  d.drawnLines.any fun line => !d.isBare line && (shownText line).contains '\t'

/-- All rows below the title. -/
def bodyRows (d : Layout) (r : Report) : List Row :=
  d.placeRow r.filename r.offset :: d.headRows
    ++ d.linesRows (lineRange d.source d.labels).1 false d.drawnLines
    ++ d.remarkRows "Help" r.help
    ++ d.remarkRows "Note" r.note
    ++ d.footRows

end Layout

/-! ### Reports -/

namespace Report

/-- The layout of a report over its source. -/
def layout (r : Report) (source : String) : Layout :=
  let s := Source.ofString source
  .new s (placeLabels s r.labels) r.options

/-- The rows of a report. -/
def rows (r : Report) (source : String) : Except ReportFault (List Row) :=
  let layout := r.layout source
  if layout.labels = [] then .ok [r.titleRow]
  else if r.options.tabWidth = 0 ∧ layout.drawsTab = true then .error .tabWithoutWidth
  else .ok (r.titleRow :: layout.bodyRows r)

/-- The report as text. -/
def draw (r : Report) (source : String) : Except ReportFault String :=
  (r.rows source).map (writeRows r.options.color)

end Report

/-- The report of a diagnostic as text. -/
def Diagnostic.render (d : Diagnostic) (source filename : String) (config : ReportConfig) :
    Except ReportFault String :=
  if d.hasReversedLabel then .error .reversedLabel
  else (d.report filename config).draw source

end TagExpr
