/-
TagExpr/Proofs/BuilderCalls.lean

Diagnostics built by calls in any order.

A diagnostic begins with its severity, kind, message and span, and calls add codes, labels,
notes and help in any order and any number.  What it comes to depends on the calls of each kind
taken by themselves (`finished`):

    code   = the last code
    labels = all labels, in order          notes = all notes, in order
    help   = the last help, or else the suggestion of the first code that has one.

Only a code and a help look at the same field.  A code leaves help alone that is there already,
whether it was given or suggested by an earlier code, and a later help takes the place of
either; so it is the first code that counts for help and the last one for the code.
-/
import TagExpr.Diagnostic.Basic

namespace TagExpr

/-! ### Calls -/

/-- A call that adds to a diagnostic. -/
inductive BuilderCall where
  | code (c : ErrorCode)
  | label (l : Label)
  | note (text : String)
  | help (text : String)
  deriving DecidableEq

namespace BuilderCall

/-- The code that the call gives. -/
def code? : BuilderCall → Option ErrorCode
  | code c => some c
  | _ => none

/-- The label that the call adds. -/
def label? : BuilderCall → Option Label
  | label l => some l
  | _ => none

/-- The note that the call adds. -/
def note? : BuilderCall → Option String
  | note text => some text
  | _ => none

/-- The help that the call gives. -/
def help? : BuilderCall → Option String
  | help text => some text
  | _ => none

end BuilderCall

namespace Diagnostic

/-- Make one call. -/
def perform (d : Diagnostic) : BuilderCall → Diagnostic
  | .code c => d.withCode c
  | .label l => d.withLabel l
  | .note text => d.withNote text
  | .help text => d.withHelp text

/-- Make calls one after the other. -/
def build (d : Diagnostic) (calls : List BuilderCall) : Diagnostic :=
  calls.foldl perform d

/-- What calls make of a diagnostic, each kind of them taken by itself. -/
def finished (d : Diagnostic) (calls : List BuilderCall) : Diagnostic :=
  { d with
    code := (calls.filterMap BuilderCall.code?).getLast? <|> d.code
    labels := d.labels ++ calls.filterMap BuilderCall.label?
    notes := d.notes ++ calls.filterMap BuilderCall.note?
    help := (calls.filterMap BuilderCall.help?).getLast? <|> d.help <|>
      (calls.filterMap BuilderCall.code?).findSome? ErrorCode.suggestion }

/-! ### One call -/

/-- Nothing is given before the first call. -/
theorem finished_nil (d : Diagnostic) : d.finished [] = d := by
  have hhelp : (d.help <|> none) = d.help := by cases d.help <;> rfl
  simp only [finished, List.filterMap_nil, List.getLast?_nil, List.findSome?_nil,
    List.append_nil, hhelp]
  rfl

/-- Of a list with `a` in front the last element is that of the rest, or `a`. -/
theorem getLast?_cons_orElse {β : Type} (a : β) (as : List β) (o : Option β) :
    ((a :: as).getLast? <|> o) = (as.getLast? <|> some a) := by
  rw [List.getLast?_cons]
  cases as.getLast? <;> rfl

/-- A call in front of others: a code gives way to later ones and suggests help where there is none,
help gives way to later help, and labels and notes stand in front. -/
theorem finished_perform (d : Diagnostic) (call : BuilderCall) (calls : List BuilderCall) :
    (d.perform call).finished calls = d.finished (call :: calls) := by
  cases call with
  | code c =>
    -- a code suggests help only where none was given so far
    have hhelp (o : Option String) :
        (o <|> (d.help <|> c.suggestion) <|>
            (calls.filterMap BuilderCall.code?).findSome? ErrorCode.suggestion)
          = (o <|> d.help <|>
            (c :: calls.filterMap BuilderCall.code?).findSome? ErrorCode.suggestion) := by
      rw [List.findSome?_cons]
      cases o <;> cases d.help <;> cases c.suggestion <;> rfl
    simp only [finished, perform, withCode, List.filterMap_cons, BuilderCall.code?,
      BuilderCall.label?, BuilderCall.note?, BuilderCall.help?, hhelp, getLast?_cons_orElse]
  | label l =>
    simp only [finished, perform, withLabel, List.filterMap_cons, BuilderCall.code?,
      BuilderCall.label?, BuilderCall.note?, BuilderCall.help?, List.append_assoc,
      List.singleton_append]
  | note text =>
    simp only [finished, perform, withNote, List.filterMap_cons, BuilderCall.code?,
      BuilderCall.label?, BuilderCall.note?, BuilderCall.help?, List.append_assoc,
      List.singleton_append]
  | help text =>
    -- help takes the place of help given before and of any suggestion
    have hhelp (o : Option String) : (some text <|> o) = some text := rfl
    simp only [finished, perform, withHelp, List.filterMap_cons, BuilderCall.code?,
      BuilderCall.label?, BuilderCall.note?, BuilderCall.help?, getLast?_cons_orElse, hhelp]

/-! ### Any number of calls -/

theorem build_eq_finished (d : Diagnostic) (calls : List BuilderCall) :
    d.build calls = d.finished calls := by
  induction calls generalizing d with
  | nil => exact d.finished_nil.symm
  | cons call calls ih =>
    rw [← finished_perform, ← ih]
    rfl

/-- **A diagnostic does not depend on how the calls of different kinds are interleaved.**  Started
as an error or as a warning it keeps severity, kind, message and span; it has all labels and all
notes in order and the last of the codes; and its help is the last that was given, before or
after the codes, or else what the first code with a suggestion suggests. -/
theorem build_in_any_order (kind : DiagnosticKind) (span : Span) (message : String)
    (calls : List BuilderCall) :
    let codes := calls.filterMap BuilderCall.code?
    let labels := calls.filterMap BuilderCall.label?
    let notes := calls.filterMap BuilderCall.note?
    let helps := calls.filterMap BuilderCall.help?
    let built (severity : Severity) : Diagnostic :=
      { severity, kind, code := codes.getLast?, message, span, labels, notes,
        help := helps.getLast? <|> codes.findSome? ErrorCode.suggestion }
    (error kind span message).build calls = built .error ∧
    (warning kind span message).build calls = built .warning ∧
    ∀ calls' : List BuilderCall, calls'.filterMap BuilderCall.code? = codes →
      calls'.filterMap BuilderCall.label? = labels → calls'.filterMap BuilderCall.note? = notes →
      calls'.filterMap BuilderCall.help? = helps →
      (error kind span message).build calls' = (error kind span message).build calls ∧
        (warning kind span message).build calls' = (warning kind span message).build calls := by
  intro codes labels notes helps built
  have hcode : (codes.getLast? <|> none) = codes.getLast? := by
    cases codes.getLast? <;> rfl
  have hnew (severity : Severity) :
      (new severity kind span message).build calls = built severity := by
    rw [build_eq_finished]
    simp only [finished, new, List.nil_append, built]
    rw [hcode]
    rfl
  refine ⟨hnew .error, hnew .warning, fun calls' hcodes hlabels hnotes hhelps => ?_⟩
  -- what the calls make reads nothing of them but the four lists
  have hsame (d : Diagnostic) : d.build calls' = d.build calls := by
    rw [build_eq_finished, build_eq_finished, finished, hcodes, hlabels, hnotes, hhelps]
    rfl
  exact ⟨hsame _, hsame _⟩

/-- Three codes, of which the second is the first with a suggestion and the third is the last; a
note before and a label between them. -/
theorem build_in_any_order_codes :
    let label : Label := ⟨.ofNat 3 8, "here"⟩
    let calls : List BuilderCall :=
      [.note "seen", .code .filterFailed, .code .notAFilter, .label label, .code .missingFilter]
    let calls' : List BuilderCall :=
      [.code .filterFailed, .label label, .code .notAFilter, .code .missingFilter, .note "seen"]
    let start : Diagnostic := error .eval .dummy "Missing filter"
    calls'.filterMap BuilderCall.code? = calls.filterMap BuilderCall.code? ∧
    calls'.filterMap BuilderCall.label? = calls.filterMap BuilderCall.label? ∧
    calls'.filterMap BuilderCall.note? = calls.filterMap BuilderCall.note? ∧
    calls'.filterMap BuilderCall.help? = calls.filterMap BuilderCall.help? ∧
    (start.build calls).code = some .missingFilter ∧
    (start.build calls).help = ErrorCode.notAFilter.suggestion ∧
    start.build calls' = start.build calls := by
  intro label calls calls' start
  obtain ⟨herror, -, hany⟩ := build_in_any_order .eval .dummy "Missing filter" calls
  refine ⟨rfl, rfl, rfl, rfl, ?_, ?_, (hany calls' rfl rfl rfl rfl).1⟩
  · rw [herror]
    rfl
  · rw [herror]
    rfl

/-- Help that was given first is kept by a code and replaced by later help. -/
example (c : ErrorCode) (d : Diagnostic) :
    (d.build [.help "a", .code c, .help "b", .code c]).help = some "b" := by
  rfl

end Diagnostic

end TagExpr
