/-
TagExpr/Diagnostic/Basic.lean

Diagnostics: a message about a span, with labels, notes and help.

A diagnostic begins with severity, kind, span and message and gets the rest step by step.
Labels and notes are kept in order.  A code brings its suggestion as help, but only if there
is no help yet; help that is given explicitly always counts.
-/
import TagExpr.Diagnostic.Code
import TagExpr.Span

namespace TagExpr

/-- How grave a diagnostic is. -/
inductive Severity where
  | error
  | warning
  | note
  deriving DecidableEq

/-- The name of a severity in inspected form. -/
def Severity.name : Severity → String
  | error => "Error"
  | warning => "Warning"
  | note => "Note"

/-- What a diagnostic is about: an expression that cannot be evaluated, or a filter that ran and
failed. -/
inductive DiagnosticKind where
  | eval
  | filter
  deriving DecidableEq

/-- The name of a kind in inspected form. -/
def DiagnosticKind.name : DiagnosticKind → String
  | eval => "Eval"
  | filter => "Filter"

/-- A span with a text. -/
structure Label where
  span : Span
  message : String
  deriving DecidableEq

/-- A message about a template source. -/
@[ext] structure Diagnostic where
  severity : Severity
  kind : DiagnosticKind
  code : Option ErrorCode
  message : String
  span : Span
  labels : List Label
  notes : List String
  help : Option String
  deriving DecidableEq

namespace Diagnostic

/-- A diagnostic with nothing but its message. -/
def new (severity : Severity) (kind : DiagnosticKind) (span : Span) (message : String) :
    Diagnostic :=
  { severity, kind, code := none, message, span, labels := [], notes := [], help := none }

/-- An error with nothing but its message. -/
def error (kind : DiagnosticKind) (span : Span) (message : String) : Diagnostic :=
  new .error kind span message

/-- A warning with nothing but its message. -/
def warning (kind : DiagnosticKind) (span : Span) (message : String) : Diagnostic :=
  new .warning kind span message

/-- Give a code; without help so far its suggestion becomes the help. -/
def withCode (d : Diagnostic) (code : ErrorCode) : Diagnostic :=
  { d with code := some code, help := d.help <|> code.suggestion }

/-- Add a label. -/
def withLabel (d : Diagnostic) (label : Label) : Diagnostic :=
  { d with labels := d.labels ++ [label] }

/-- Add a note. -/
def withNote (d : Diagnostic) (note : String) : Diagnostic :=
  { d with notes := d.notes ++ [note] }

/-- Give help, in the place of any other. -/
def withHelp (d : Diagnostic) (help : String) : Diagnostic :=
  { d with help := some help }

/-- The diagnostic is an error. -/
def isError (d : Diagnostic) : Bool :=
  d.severity = .error

/-- Notes added one by one are all kept, in order. -/
theorem foldl_withNote (note : String → String) (texts : List String) (d : Diagnostic) :
    texts.foldl (fun d text => d.withNote (note text)) d
      = { d with notes := d.notes ++ texts.map note } := by
  induction texts generalizing d with
  | nil => rw [List.foldl_nil, List.map_nil, List.append_nil]
  | cons text texts ih =>
    rw [List.foldl_cons, ih, List.map_cons, List.append_cons]
    rfl

end Diagnostic

end TagExpr
