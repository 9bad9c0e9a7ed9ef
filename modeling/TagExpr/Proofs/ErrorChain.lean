/-
TagExpr/Proofs/ErrorChain.lean

The chain of errors behind a failed evaluation, and what its diagnostic says of it.

Any error has a text and at most one error behind it.  Behind the failure of an evaluation there
is nothing, unless a filter failed: then there is the filter's error and whatever is behind
that, filter errors and others in any order.  Errors are followed one by one (`Chain`), so that

    evaluation  →  filter error  →  cause₁  →  …  →  causeₙ
    message        = its text       note₁             noteₙ

The failure takes its message from the first error behind it, and the diagnostic begins its
notes with the next one, so no text of the chain is said twice and none is left out.
-/
import TagExpr.Evaluation.Diagnosis

namespace TagExpr

/-! ### Errors one behind the other -/

/-- An error: the failure of an evaluation or of a filter, or an error of another kind with those
behind it. -/
inductive Fault where
  | evaluation (e : EvalError)
  | filter (e : FilterError)
  | foreign (text inspected : String) (behind : List Cause)
  deriving DecidableEq

namespace Fault

/-- The error as users see it. -/
def text : Fault → String
  | evaluation e => e.message
  | filter e => e.message
  | foreign text _ _ => text

/-- The nearest of the errors of a chain; it has the others behind it. -/
def nearest? : List Cause → Option Fault
  | [] => none
  | .filter message :: rest => some (filter ⟨message, rest⟩)
  | .foreign text inspected :: rest => some (foreign text inspected rest)

/-- The error behind an error. -/
def source? : Fault → Option Fault
  | evaluation e => e.filterError?.map filter
  | filter e => nearest? e.causes
  | foreign _ _ behind => nearest? behind

/-- The errors reached from an error by going on to the one behind, as long as there is one. -/
inductive Chain : Fault → List Fault → Prop
  | last {f} (h : f.source? = none) : Chain f []
  | more {f g fs} (h : f.source? = some g) (rest : Chain g fs) : Chain f (g :: fs)

/-- Following the errors behind an error gives one list only. -/
theorem Chain.unique {f : Fault} {fs gs : List Fault} (h : f.Chain fs) (h' : f.Chain gs) :
    fs = gs := by
  -- every error has at most one behind it, so both chains go the same way
  induction h generalizing gs with
  | last hnone =>
    cases h' with
    | last => rfl
    | more hsome =>
      rw [hnone] at hsome
      cases hsome
  | more hsome _ ih =>
    cases h' with
    | last hnone =>
      rw [hnone] at hsome
      cases hsome
    | more hsome' rest =>
      rw [hsome] at hsome'
      cases hsome'
      rw [ih rest]

theorem Chain.iff {f : Fault} {fs : List Fault} (h : f.Chain fs) (gs : List Fault) :
    f.Chain gs ↔ gs = fs :=
  ⟨fun h' => h'.unique h, fun hgs => hgs ▸ h⟩

/-- The errors of a list of causes, each with those behind it. -/
def ofCauses : List Cause → List Fault
  | [] => []
  | .filter message :: rest => filter ⟨message, rest⟩ :: ofCauses rest
  | .foreign text inspected :: rest => foreign text inspected rest :: ofCauses rest

theorem map_text_ofCauses (causes : List Cause) :
    (ofCauses causes).map text = causes.map Cause.text := by
  induction causes with
  | nil => rfl
  | cons cause rest ih =>
    cases cause with
    | filter message => exact congrArg (message :: ·) ih
    | foreign text inspected => exact congrArg (text :: ·) ih

/-- Behind an error are exactly the causes that it begins with, of whatever kinds they are. -/
theorem chain_ofCauses {f : Fault} {causes : List Cause} (h : f.source? = nearest? causes) :
    f.Chain (ofCauses causes) := by
  induction causes generalizing f with
  | nil => exact .last h
  | cons cause rest ih =>
    cases cause with
    | filter message => exact .more h (ih rfl)
    | foreign text inspected => exact .more h (ih rfl)

theorem chain_filter (e : FilterError) : (filter e).Chain (ofCauses e.causes) :=
  chain_ofCauses rfl

theorem chain_evaluation_of_filterExecution (e : FilterError) (span : Span) :
    (evaluation (.filterExecution e span)).Chain (filter e :: ofCauses e.causes) :=
  .more rfl (chain_filter e)

end Fault

/-! ### Diagnostics -/

namespace EvalError

/-- The errors behind the failure of an evaluation. -/
def faults (e : EvalError) : List Fault :=
  match e.filterError? with
  | none => []
  | some source => .filter source :: Fault.ofCauses source.causes

theorem chain_faults (e : EvalError) : (Fault.evaluation e).Chain e.faults := by
  cases e with
  | filterExecution source span => exact Fault.chain_evaluation_of_filterExecution source span
  | _ => exact .last rfl

theorem sources_eq_map_faults (e : EvalError) : e.sources = e.faults.map Fault.text := by
  cases e with
  | filterExecution source span =>
    exact congrArg (source.message :: ·) (Fault.map_text_ofCauses source.causes).symm
  | _ => rfl

/-- **The diagnostic of a failure agrees with the chain of errors behind it**, which are those
reached by following the failure.  Without a filter that ran and failed there are none, and no
notes.  Else the first is the filter's error, which gives the failure its message, and the notes
are those of the errors behind that one, in order, whatever their number and their kinds.  In
all cases the diagnostic is an error with the message, code and span of the failure, the
suggestion of the code as help, and one label on the span; and it is about a filter iff one
failed. -/
theorem toDiagnostic_follows_chain (e : EvalError) :
    let d := e.toDiagnostic
    ∃ chain : List Fault,
      (∀ fs, (Fault.evaluation e).Chain fs ↔ fs = chain) ∧ e.sources = chain.map Fault.text ∧
      (e.kind ≠ .filterExecution → e.sources = [] ∧ d.notes = []) ∧
      (∀ source span, e = .filterExecution source span → ∃ behind : List Fault,
        (∀ fs, (Fault.filter source).Chain fs ↔ fs = behind) ∧ chain = .filter source :: behind ∧
        behind.map Fault.text = source.causes.map Cause.text ∧
        e.sources = source.message :: behind.map Fault.text ∧ e.message = source.message ∧
        d.notes = behind.map fun f => "caused by: " ++ f.text) ∧
      d.severity = .error ∧ d.message = e.message ∧ d.code = some e.code ∧
      d.help = e.code.suggestion ∧ (e.kind = .filterExecution → d.help = none) ∧
      d.span = e.span ∧ d.labels = [⟨e.span, e.labelText⟩] ∧
      (d.kind = .filter ↔ e.kind = .filterExecution) := by
  intro d
  have hd : d = _ := e.toDiagnostic_eq
  have hsources := e.sources_eq_map_faults
  refine ⟨e.faults, e.chain_faults.iff, hsources, ?_, ?_, ?_⟩
  · -- no filter ran and failed
    intro hkind
    rw [hd]
    cases e with
    | filterExecution source span => exact absurd rfl hkind
    | _ => exact ⟨rfl, rfl⟩
  · -- the errors behind the filter's own give the notes
    rintro source span rfl
    have htexts := Fault.map_text_ofCauses source.causes
    have hnotes : d.notes = (source.causes.map Cause.text).map ("caused by: " ++ ·) := by
      rw [hd]
      rfl
    refine ⟨Fault.ofCauses source.causes, (Fault.chain_filter source).iff, rfl, htexts, hsources,
      rfl, ?_⟩
    rw [hnotes, ← htexts, List.map_map]
    rfl
  · rw [hd]
    refine ⟨rfl, rfl, rfl, rfl, ?_, rfl, rfl, ?_⟩
    · intro hkind
      simp only [code, hkind, ErrorCode.suggestion]
    · cases e <;> simp [diagnosticKind, kind]

/-- A filter error behind another one, with a plain text behind it. -/
theorem toDiagnostic_follows_chain_mixed :
    let source : FilterError := .causedBy "a" (.causedBy "b" (.causedByText "c" "d"))
    let e : EvalError := .filterExecution source .dummy
    (∃ chain, (Fault.evaluation e).Chain chain ∧ chain.map Fault.text = ["a", "b", "c", "d"]) ∧
      e.kind = .filterExecution ∧ e.toDiagnostic.help = none ∧
      e.toDiagnostic.notes = ["caused by: b", "caused by: c", "caused by: d"] := by
  intro source e
  obtain ⟨chain, hchain, hsources, -, hfilter, -, -, -, -, hhelp, -⟩ :=
    toDiagnostic_follows_chain e
  obtain ⟨behind, -, -, htexts, -, -, hnotes⟩ := hfilter source .dummy rfl
  refine ⟨⟨chain, (hchain chain).mpr rfl, hsources.symm⟩, rfl, hhelp rfl, ?_⟩
  have hmap : (behind.map fun f => "caused by: " ++ f.text)
      = (behind.map Fault.text).map ("caused by: " ++ ·) := List.map_map.symm
  rw [hnotes, hmap, htexts]
  rfl

end EvalError

end TagExpr
