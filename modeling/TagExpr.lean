import TagExpr.Decimal.Integer
import TagExpr.Evaluation.Basic
import TagExpr.Evaluation.Diagnosis
import TagExpr.Expr.Inspect
import TagExpr.Proofs.Arity
import TagExpr.Proofs.CallChain
import TagExpr.Proofs.ContextRequests
import TagExpr.Proofs.Equality
import TagExpr.Proofs.FilterRun
import TagExpr.Proofs.FirstFailure
import TagExpr.Proofs.InStep
import TagExpr.Proofs.Journal
import TagExpr.Proofs.OrderedSpans
import TagExpr.Proofs.Reading
import TagExpr.Proofs.Refusal
import TagExpr.Proofs.ReportNotes
import TagExpr.Proofs.ReportPlace
import TagExpr.Proofs.Scopes
import TagExpr.Proofs.SpanCover
import TagExpr.Proofs.SpanIndependence
import TagExpr.Proofs.Substitution
import TagExpr.Proofs.Trace
import TagExpr.Proofs.BuilderCalls
import TagExpr.Proofs.ErrorChain
import TagExpr.Proofs.EscapeSequences
import TagExpr.Proofs.ReportColors
import TagExpr.Proofs.Holdings
import TagExpr.Proofs.Makings
import TagExpr.Proofs.Routes
import TagExpr.Proofs.Sessions
import TagExpr.Proofs.MergeOrders
import TagExpr.Proofs.Mappings
import TagExpr.Proofs.Appearance
import TagExpr.Proofs.CallSyntax
import TagExpr.Proofs.ClampedText
import TagExpr.Proofs.Recursion
