/-
TagExpr/Report/Config.lean

How reports are drawn: with or without colours, compact or with room, and the columns of a tab.

A configuration is used twice.  Labels get colours from it when the report is built, and the
drawing gets options of its own, among them whether to write the colours that are not those of
labels.
-/
import TagExpr.Text.Inspected

namespace TagExpr

/-- Options of a report. -/
structure ReportConfig where
  /-- Write colours. -/
  color : Bool
  /-- Leave out the empty lines and the second column of the margin. -/
  compact : Bool
  /-- Columns from one tab stop to the next. -/
  tabWidth : Nat
  deriving DecidableEq

/-- What the drawing of a report is told. -/
structure DrawOptions where
  /-- Write the colours of title, margin, remarks and unlabelled text. -/
  color : Bool
  compact : Bool
  tabWidth : Nat
  deriving DecidableEq

namespace ReportConfig

/-- Colours, room, and four columns for a tab. -/
def standard : ReportConfig :=
  { color := true, compact := false, tabWidth := 4 }

/-- The standard options without colours. -/
def plain : ReportConfig :=
  { standard with color := false }

/-- The options that the drawing gets. -/
def drawing (c : ReportConfig) : DrawOptions :=
  { color := c.color, compact := c.compact, tabWidth := c.tabWidth }

/-- The inspected form. -/
def inspect (c : ReportConfig) : String :=
  inspectRecord "ReportConfig" [("color", printBool c.color), ("compact", printBool c.compact),
    ("tab_width", toString c.tabWidth)]

end ReportConfig

end TagExpr
