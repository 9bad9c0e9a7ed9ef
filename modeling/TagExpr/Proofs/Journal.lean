/-
TagExpr/Proofs/Journal.lean

The journal of an evaluation: what it asks, what it is answered and what it logs, in one order.

`Environment.recorded` notes only what is asked.  `Environment.journaled` answers as before too,
and notes every request and every use of a filter together with its answer, and every record of
the log, as they come.  So the journal tells between which two uses of filters a record was
written, and on which answer.  The journal of an evaluation is

    opened, entered, x₁, …, xₙ, [failed], exited

where `x₁`, …, `xₙ` are the requests and uses of its trace.  An application without value and
without error is followed at once by the record of that, nothing else is followed by a record,
and the failure, if there is one, is written once, by the evaluation and not by its nodes.
-/
import TagExpr.Proofs.Trace

namespace TagExpr

variable {σ α β : Type}

/-! ### Answers -/

/-- A request of the evaluator to its context, or its use of a filter, with the answer. -/
inductive Answered (α : Type) where
  | lookup (name : String) (v : Value α)
  | top (v : Value α)
  | curry (f : Filter α (Value α)) (a : Value α) (g : Option (Filter α (Value α)))
  | apply (f : Filter α (Value α)) (a : Value α) (r : FilterResult α)

/-- An entry of a journal. -/
inductive Note (α : Type) where
  | asked (a : Answered α)
  | reported (r : Record)

namespace Answered

/-- What was asked. -/
def event : Answered α → Event α
  | lookup name _ => .lookup name
  | top _ => .top
  | curry f a _ => .curry f a
  | apply f a _ => .apply f a

/-- The name of the filter, if it was applied and gave neither a value nor an error. -/
def noValue? : Answered α → Option String
  | apply f _ (.ok none) => some f.name
  | _ => none

/-- The entries for an answer: the answer, and the record of an application without value. -/
def notes (x : Answered α) : List (Note α) :=
  .asked x :: (x.noValue?.map Record.noValue).toList.map .reported

end Answered

namespace Note

/-- The answer, if the entry is one. -/
def asked? : Note α → Option (Answered α)
  | asked x => some x
  | reported _ => none

/-- The record of the log, if the entry is one. -/
def reported? : Note α → Option Record
  | asked _ => none
  | reported r => some r

theorem filterMap_asked?_reported (rs : List Record) :
    (rs.map reported).filterMap asked? = ([] : List (Answered α)) := by
  simp [asked?]

theorem filterMap_reported?_reported (rs : List Record) :
    (rs.map (reported (α := α))).filterMap reported? = rs := by
  simp [List.filterMap_map, Function.comp_def, reported?]

theorem filterMap_asked?_notes (xs : List (Answered α)) :
    (xs.flatMap Answered.notes).filterMap asked? = xs := by
  induction xs with
  | nil => rfl
  | cons x xs ih =>
    rw [List.flatMap_cons, List.filterMap_append, ih, Answered.notes, List.filterMap_cons,
      filterMap_asked?_reported]
    rfl

theorem filterMap_reported?_notes (xs : List (Answered α)) :
    (xs.flatMap Answered.notes).filterMap reported?
      = (xs.filterMap Answered.noValue?).map .noValue := by
  induction xs with
  | nil => rfl
  | cons x xs ih =>
    rw [List.flatMap_cons, List.filterMap_append, ih, Answered.notes, List.filterMap_cons,
      filterMap_reported?_reported]
    rcases hx : x.noValue? with - | name <;> simp [reported?, hx]

end Note

/-- The record of a failure. -/
def Record.isFailure : Record → Bool
  | failed _ _ _ => true
  | _ => false

/-- The record of the failure of an evaluation, if it fails. -/
def failureRecords : Except EvalError (Value α) → List Record
  | .ok _ => []
  | .error err => [err.record]

/-- The failure is the one failure among the records of an evaluation. -/
theorem filter_isFailure (e : Expr) (names : List String) (r : Except EvalError (Value α)) :
    ([Record.opened e.print, .entered] ++ names.map Record.noValue ++ failureRecords r
      ++ [Record.exited]).filter Record.isFailure = failureRecords r := by
  have hsilent : (names.map Record.noValue).filter Record.isFailure = [] := by
    induction names with
    | nil => rfl
    | cons name names ih => exact ih
  rw [List.filter_append, List.filter_append, List.filter_append, hsilent]
  cases r <;> rfl

/-! ### Keeping a journal -/

/-- Answer as `x` does, and put down the answer. -/
def journaling (note : β → Note α) (x : StateM σ β) : StateM (σ × List (Note α)) β :=
  fun (w, journal) => ((answer x w).1, (answer x w).2, journal ++ [note (answer x w).1])

/-- The same environment, with a journal of what is asked, answered and reported. -/
def Environment.journaled (env : Environment (StateM σ) α) :
    Environment (StateM (σ × List (Note α))) α where
  lookup name := journaling (fun v => .asked (.lookup name v)) (env.lookup name)
  top := journaling (fun v => .asked (.top v)) env.top
  apply f a := journaling (fun r => .asked (.apply f a r)) (env.apply f a)
  curry f a := journaling (fun g => .asked (.curry f a g)) (env.curry f a)
  report r := journaling (fun _ => .reported r) (env.report r)

@[simp] theorem answer_journaling (note : β → Note α) (x : StateM σ β) (w : σ)
    (journal : List (Note α)) :
    answer (journaling note x) (w, journal)
      = ((answer x w).1, (answer x w).2, journal ++ [note (answer x w).1]) := rfl

/-! ### Parts of an evaluation -/

/-- A part of an evaluation that asks `events` and comes to `o` comes to `o'` when a journal is
kept: to the same, with the answers and no other records than theirs added to the journal. -/
def Outcome.Journaled (o : Outcome σ α) (events : List (Event α)) (journal : List (Note α))
    (o' : Outcome (σ × List (Note α)) α) : Prop :=
  ∃ xs : List (Answered α), xs.map Answered.event = events ∧
    o' = (o.1, o.2, journal ++ xs.flatMap Answered.notes)

/-- What goes on after a value adds to the journal after it. -/
theorem Outcome.Journaled.andThen {o : Outcome σ α} {events : List (Event α)}
    {journal : List (Note α)} {o' : Outcome (σ × List (Note α)) α}
    {next : Value α → σ → Outcome σ α}
    {next' : Value α → σ × List (Note α) → Outcome (σ × List (Note α)) α}
    {more : Value α → σ → List (Event α)}
    (hnext : ∀ v w journal, (next v w).Journaled (more v w) journal (next' v (w, journal))) :
    o.Journaled events journal o' →
      (o.andThen next).Journaled
        (events ++ match o with
          | (.error _, _) => []
          | (.ok v, w) => more v w) journal (o'.andThen next') := by
  rintro ⟨xs, rfl, rfl⟩
  obtain ⟨err | v, w⟩ := o
  · -- nothing goes on after an error
    exact ⟨xs, by simp, rfl⟩
  · obtain ⟨ys, hys, hnotes⟩ := hnext v w (journal ++ xs.flatMap Answered.notes)
    refine ⟨xs ++ ys, by rw [List.map_append, hys], ?_⟩
    rw [Outcome.andThen_ok, Outcome.andThen_ok, hnotes, List.flatMap_append, List.append_assoc]

variable {env : Environment (StateM σ) α} {run : Nat} {place : List Branch}

/-- One node: the record of an application without value follows the application. -/
theorem journaled_used (filter : Expr) (curried : Bool) (s : Span) (v a : Value α) (w : σ)
    (journal : List (Note α)) :
    (used env run place filter curried s v a w).Journaled (invocation curried v a) journal
      (used env.journaled run place filter curried s v a (w, journal)) := by
  rcases hv : v.filter? with - | g
  · -- without a filter nothing is asked
    rw [used_of_filter?_eq_none hv, used_of_filter?_eq_none hv]
    exact ⟨[], by simp [invocation, hv], by simp⟩
  · cases curried with
    | true =>
      rw [used_curried hv, used_curried hv]
      refine ⟨[.curry g a (answer (env.curry g a) w).1], ?_, ?_⟩
      · simp [invocation, hv, Answered.event]
      · simp only [Environment.journaled, answer_journaling]
        rcases answer (env.curry g a) w with ⟨- | k, w'⟩
        · rfl
        · rfl
    | false =>
      rw [used_applied hv, used_applied hv]
      -- one question, whose answer alone decides whether a record follows it
      refine ⟨[.apply g a (answer (env.apply g a) w).1], ?_, ?_⟩
      · simp [invocation, hv, Answered.event]
      · simp only [Environment.journaled, answer_journaling]
        rcases answer (env.apply g a) w with ⟨err | - | v', w'⟩
        · rfl
        · simp [appliedOutcome, Answered.notes, Answered.noValue?]
        · rfl

theorem journaled_outcome (e : Expr) (w : σ) (journal : List (Note α)) :
    (outcome env run place e w).Journaled (trace env run place e w) journal
      (outcome env.journaled run place e (w, journal)) := by
  induction e generalizing place w journal with
  | identifier x s => exact ⟨[.lookup x.name (answer (env.lookup x.name) w).1], rfl, rfl⟩
  | implicitIterator s => exact ⟨[.top (answer env.top w).1], rfl, rfl⟩
  | access base key s ih =>
    rw [outcome_access, outcome_access, trace_access]
    obtain ⟨xs, hxs, hbase⟩ := ih w journal
    refine ⟨xs, hxs, ?_⟩
    rw [hbase]
    rcases outcome env run (.base :: place) base w with ⟨err | v, w₁⟩ <;> rfl
  | filtered filter argument curried s ihf iha =>
    rw [outcome_filtered, outcome_filtered, trace_filtered]
    -- what the filter side asks, what the argument side asks, and what the node asks
    refine .andThen ?_ (ihf w journal)
    intro v w₁ journal₁
    refine .andThen ?_ (iha w₁ journal₁)
    intro a w₂ journal₂
    exact journaled_used filter curried s v a w₂ journal₂

/-! ### Whole evaluations -/

theorem openedWorld_journaled (e : Expr) (w : σ) (journal : List (Note α)) :
    openedWorld env.journaled e (w, journal)
      = (openedWorld env e w, journal ++ [Record.opened e.print, .entered].map .reported) := by
  simp [openedWorld, Environment.journaled]

theorem closedWorld_journaled (r : Except EvalError (Value α)) (w : σ) (journal : List (Note α)) :
    closedWorld env.journaled (r, (w, journal))
      = (closedWorld env (r, w),
          journal ++ (failureRecords r ++ [Record.exited]).map .reported) := by
  rcases r with err | v
  · simp [closedWorld, Environment.journaled, failureRecords]
  · simp [closedWorld, Environment.journaled, failureRecords]

variable (env run) in
theorem exists_answer_evaluate_journaled (e : Expr) (w : σ) (journal : List (Note α)) :
    ∃ xs : List (Answered α),
      xs.map Answered.event = trace env run [] e (openedWorld env e w) ∧
      answer (evaluate env.journaled run e) (w, journal)
        = ((answer (evaluate env run e) w).1, (answer (evaluate env run e) w).2,
            journal ++ [Record.opened e.print, .entered].map .reported
              ++ xs.flatMap Answered.notes
              ++ (failureRecords (answer (evaluate env run e) w).1
                ++ [Record.exited]).map .reported) := by
  let opened : List (Note α) := journal ++ [Record.opened e.print, .entered].map .reported
  have hpart : (outcome env run [] e (openedWorld env e w)).Journaled
      (trace env run [] e (openedWorld env e w)) opened
      (outcome env.journaled run [] e (openedWorld env e w, opened)) :=
    journaled_outcome e _ opened
  obtain ⟨xs, hxs, houtcome⟩ := hpart
  refine ⟨xs, hxs, ?_⟩
  rw [answer_evaluate, answer_evaluate, openedWorld_journaled, houtcome, closedWorld_journaled]

/-- **What an evaluation logs.**  Keeping a journal does not change the evaluation, and the journal
has what a recording has.  The first two entries open the log of the evaluation, with the text of
the expression, and the last one closes it.  In between, an application of a filter that gave
neither a value nor an error is followed by one record, of the filter's name.  There is no record
besides these and the failure, which is the last one within the log and is there exactly once if
the evaluation fails, whatever was logged before. -/
theorem evaluate_journaled (env : Environment (StateM σ) α) (run : Nat) (e : Expr) (w : σ) :
    let result := answer (evaluate env run e) w
    let journal := (answer (evaluate env.journaled run e) (w, [])).2.2
    let asked := journal.filterMap Note.asked?
    let log := journal.filterMap Note.reported?
    answer (evaluate env.journaled run e) (w, []) = (result.1, result.2, journal) ∧
      asked.map Answered.event = (answer (evaluate env.recorded run e) (w, [])).2.2 ∧
      journal = [.reported (.opened e.print), .reported .entered] ++ asked.flatMap Answered.notes
        ++ (failureRecords result.1).map .reported ++ [.reported .exited] ∧
      log = [.opened e.print, .entered] ++ (asked.filterMap Answered.noValue?).map .noValue
        ++ failureRecords result.1 ++ [.exited] ∧
      (∀ v, result.1 = .ok v → log.filter Record.isFailure = []) ∧
      ∀ err, result.1 = .error err →
        log.filter Record.isFailure = [.failed err.kind err.span err.message] := by
  intro result journal asked log
  obtain ⟨xs, hxs, hjournaled⟩ := exists_answer_evaluate_journaled env run e w []
  have hjournal : journal = [Record.opened e.print, .entered].map .reported
      ++ xs.flatMap Answered.notes
      ++ (failureRecords result.1 ++ [Record.exited]).map .reported := by
    simp only [journal, hjournaled, List.nil_append, result]
  -- records are no questions, and the questions are not among the records
  have hasked : asked = xs := by
    simp only [asked, hjournal, List.filterMap_append, Note.filterMap_asked?_reported,
      Note.filterMap_asked?_notes, List.nil_append, List.append_nil]
  have hlog : log = [.opened e.print, .entered] ++ (xs.filterMap Answered.noValue?).map .noValue
      ++ failureRecords result.1 ++ [.exited] := by
    simp only [log, hjournal, List.filterMap_append, Note.filterMap_reported?_reported,
      Note.filterMap_reported?_notes, List.append_assoc]
  refine ⟨?_, ?_, ?_, ?_, ?_, ?_⟩
  · simp only [journal, hjournaled, result]
  · rw [hasked, hxs, answer_evaluate_recorded, List.nil_append]
  · rw [hjournal, hasked]
    simp
  · rw [hlog, hasked]
  · intro v hv
    rw [hlog, filter_isFailure, hv]
    rfl
  · intro err herr
    rw [hlog, filter_isFailure, herr]
    rfl

/-- `f(x)(y)` fails, since `f(x)` has no value; that it has none was logged before. -/
example :
    let quiet : Host (StateM Unit) Unit :=
      ⟨fun _ _ => pure (.ok none), fun _ _ => pure (.ok none), fun _ _ => pure none⟩
    let f : Value Unit := .ofFilter (.host 0) (.fixed (.new "f" 1 ()))
    let env : Environment (StateM Unit) Unit :=
      .of (ContextStack.ofValue (.mapping [("f", f)])).toContext quiet fun _ => pure ()
    let name (s : String) : Expr := .identifierAt s .dummy
    let e : Expr := .mkFiltered (.mkFiltered (name "f") (name "x") false) (name "y") false
    let journal := (answer (evaluate env.journaled 0 e) ((), [])).2.2
    journal.filterMap Note.reported?
      = [.opened "f(x)(y)", .entered, .noValue "f",
          .failed .missingFilter .dummy "Missing filter", .exited] := by
  decide

end TagExpr
