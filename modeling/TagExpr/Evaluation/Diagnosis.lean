/-
TagExpr/Evaluation/Diagnosis.lean

The diagnostic of a failed evaluation.

It points at the span of the failing node with one label, and a filter that failed gets a
note for each cause of its error, the nearest first.
-/
import TagExpr.Diagnostic.Basic
import TagExpr.Evaluation.Error

namespace TagExpr

namespace EvalError

/-- The code of an error. -/
def code (e : EvalError) : ErrorCode :=
  match e.kind with
  | .missingFilter => .missingFilter
  | .notAFilter => .notAFilter
  | .tooManyArguments => .tooManyArguments
  | .filterExecution => .filterFailed

/-- What the diagnostic of an error is about. -/
def diagnosticKind : EvalError → DiagnosticKind
  | filterExecution _ _ => .filter
  | _ => .eval

/-- What is said at the span of the error. -/
def labelText : EvalError → String
  | missingFilter filter _ => "`" ++ filter ++ "` is not defined"
  | notAFilter filter found _ => "`" ++ filter ++ "` is not a filter (found " ++ found ++ ")"
  | tooManyArguments filter _ => "`" ++ filter ++ "` takes no further arguments"
  | filterExecution _ _ => "filter failed here"

/-- The texts of the causes behind a filter that failed, the filter's own error left out. -/
def causes (e : EvalError) : List String :=
  match e.filterError? with
  | some source => source.sources
  | none => []

/-- The diagnostic of an error. -/
def toDiagnostic (e : EvalError) : Diagnostic :=
  let base := Diagnostic.error e.diagnosticKind e.span e.message
  let labelled := (base.withCode e.code).withLabel ⟨e.span, e.labelText⟩
  e.causes.foldl (fun d text => d.withNote ("caused by: " ++ text)) labelled

/-- The parts of the diagnostic of an error. -/
theorem toDiagnostic_eq (e : EvalError) :
    e.toDiagnostic =
      { severity := .error, kind := e.diagnosticKind, code := some e.code, message := e.message,
        span := e.span, labels := [⟨e.span, e.labelText⟩],
        notes := e.causes.map ("caused by: " ++ ·), help := e.code.suggestion } :=
  Diagnostic.foldl_withNote _ _ _

end EvalError

end TagExpr
