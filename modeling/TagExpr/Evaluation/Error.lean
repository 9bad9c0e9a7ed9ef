/-
TagExpr/Evaluation/Error.lean

How the evaluation of an expression fails.

Only a filtered node fails, and every error carries the span stored on that node.  A filter
that is missing, is no filter or takes no further arguments is named by its expression.
-/
import TagExpr.Filter.Error
import TagExpr.Span

namespace TagExpr

/-- The failure of an evaluation. -/
inductive EvalError where
  /-- The filter is no value at all. -/
  | missingFilter (filter : String) (span : Span)
  /-- The filter is a value, of the kind `found`, that exposes no filter. -/
  | notAFilter (filter found : String) (span : Span)
  /-- The filter refuses to bind an argument. -/
  | tooManyArguments (filter : String) (span : Span)
  /-- The filter ran and failed. -/
  | filterExecution (source : FilterError) (span : Span)
  deriving DecidableEq

/-- The kinds of failure. -/
inductive EvalErrorKind where
  | missingFilter
  | notAFilter
  | tooManyArguments
  | filterExecution
  deriving DecidableEq

/-- The name of a kind in inspected form. -/
def EvalErrorKind.name : EvalErrorKind → String
  | missingFilter => "MissingFilter"
  | notAFilter => "NotAFilter"
  | tooManyArguments => "TooManyArguments"
  | filterExecution => "FilterExecution"

namespace EvalError

/-- The kind of an error. -/
def kind : EvalError → EvalErrorKind
  | missingFilter _ _ => .missingFilter
  | notAFilter _ _ _ => .notAFilter
  | tooManyArguments _ _ => .tooManyArguments
  | filterExecution _ _ => .filterExecution

/-- The span of the node that failed. -/
def span : EvalError → Span
  | missingFilter _ s => s
  | notAFilter _ _ s => s
  | tooManyArguments _ s => s
  | filterExecution _ s => s

/-- The error as users see it; the failure of a filter speaks for itself. -/
def message : EvalError → String
  | missingFilter _ _ => "Missing filter"
  | notAFilter _ _ _ => "Not a filter"
  | tooManyArguments _ _ => "Too many arguments"
  | filterExecution e _ => e.message

/-- The filter error behind the failure, if a filter ran. -/
def filterError? : EvalError → Option FilterError
  | filterExecution e _ => some e
  | _ => none

/-- The texts of the errors behind this one, the nearest first. -/
def sources (e : EvalError) : List String :=
  match e.filterError? with
  | some source => source.message :: source.sources
  | none => []

/-- The inspected form. -/
def inspect (e : EvalError) : String :=
  let fields :=
    match e with
    | missingFilter filter _ => [("filter", quoted filter)]
    | notAFilter filter found _ => [("filter", quoted filter), ("found", quoted found)]
    | tooManyArguments filter _ => [("filter", quoted filter)]
    | filterExecution source _ => [("source", source.inspect)]
  inspectRecord e.kind.name (fields ++ [("span", e.span.inspect)])

end EvalError

end TagExpr
