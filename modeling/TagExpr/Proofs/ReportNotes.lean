/-
TagExpr/Proofs/ReportNotes.lean

The notes of a report.

The diagnostic of a filter that failed has a note for each cause, but a report has room for one
note, and the last one takes it.  Around this note the report is the same whatever the notes
are:

    render { d with notes } = before ++ (the last of notes, if any) ++ after,

so the report of a failure lists all of its causes, for every chain of `n` of them, only if
`n ≤ 1`.  Of a longer chain it has the cause farthest away, and no other one leaves a trace.
-/
import TagExpr.Evaluation.Diagnosis
import TagExpr.Proofs.ReportPlace

namespace TagExpr

/-! ### Texts in order -/

/-- The texts stand in `text` in this order, one after the other. -/
def ListsInOrder (text : String) : List String → Prop
  | [] => True
  | t :: ts => ∃ before rest, text = before ++ t ++ rest ∧ ListsInOrder rest ts

theorem ListsInOrder.length_le {text t : String} {ts : List String}
    (h : ListsInOrder text (t :: ts)) : t.length ≤ text.length := by
  obtain ⟨before, rest, rfl, -⟩ := h
  rw [String.length_append, String.length_append]
  omega

/-! ### One note -/

/-- A remark as it is written behind a gutter, under its word. -/
def remarkText (color : Bool) (gutter word : String) : Option String → String
  | none => ""
  | some text => gutter ++ Fragment.write color (.colored .remark word) ++ ": " ++ text ++ "\n"

/-- A remark is written behind a gutter that does not depend on what it says. -/
theorem Layout.exists_writeRows_remarkRows {l : Layout} (hlines : l.source.lines ≠ [])
    (color : Bool) (word : String) :
    ∃ gutter, ∀ text,
      writeRows color (l.remarkRows word text) = remarkText color gutter word text := by
  obtain ⟨first, rest, hfirst⟩ := List.exists_cons_of_ne_nil hlines
  -- the margin depends on the source and its labels, not on the remark
  let margin := l.barGutter ++ l.strokes first (remarkStrokes first)
  let room := writeRows color (if l.compact then [] else [margin])
  refine ⟨room ++ String.join (margin.map (Fragment.write color)), fun text => ?_⟩
  rcases text with - | text
  · rfl
  · have hrows : l.remarkRows word (some text) = (if l.compact then [] else [margin])
        ++ [margin ++ [.colored .remark word, .plain (": " ++ text)]] := by
      simp only [remarkRows, hfirst]
      split <;> rfl
    rw [hrows, writeRows_append]
    simp only [writeRows, List.map_cons, List.map_nil, List.map_append, String.join_append,
      String.join_cons, String.join_nil, String.append_empty, remarkText, room]
    simp only [String.append_assoc]
    rfl

/-- **A report has the last of the notes**, and is the same around it whatever the notes are. -/
theorem Diagnostic.exists_render_eq_around_note {d : Diagnostic} {source filename : String}
    {config : ReportConfig} (hreversed : d.hasReversedLabel = false) (htab : config.tabWidth ≠ 0)
    (hlines : (Source.ofString source).lines ≠ [])
    (hplaced : ((d.report filename config).layout source).labels ≠ []) :
    ∃ before gutter after, ∀ notes, ({ d with notes := notes } : Diagnostic).render source filename
        config = .ok (before ++ remarkText config.color gutter "Note" notes.getLast? ++ after) := by
  let r := d.report filename config
  let l := r.layout source
  let above : List Row := r.titleRow :: (l.placeRow r.filename r.offset :: l.headRows
    ++ l.linesRows (Layout.lineRange l.source l.labels).1 false l.drawnLines
    ++ l.remarkRows "Help" r.help)
  obtain ⟨gutter, hgutter⟩ :=
    Layout.exists_writeRows_remarkRows (l := l) hlines config.color "Note"
  refine ⟨writeRows config.color above, gutter, writeRows config.color l.footRows, fun notes => ?_⟩
  -- with other notes the report has another note, and so the same layout
  let noted : Report := { r with note := notes.getLast? }
  have hreport : ({ d with notes := notes } : Diagnostic).report filename config = noted := by
    simp only [noted, ← note_report { d with notes := notes } filename config]
    rfl
  obtain ⟨text, htext⟩ : ∃ text, noted.draw source = .ok text := Report.exists_draw htab source
  have hplaced' : (noted.layout source).labels ≠ [] := hplaced
  rw [render_eq_draw (d := { d with notes := notes }) hreversed, hreport, htext,
    Report.eq_writeRows_of_placed hplaced' htext, ← hgutter, ← writeRows_append,
    ← writeRows_append]
  rfl

/-! ### Notes of causes -/

/-- What a diagnostic notes of a cause. -/
def Cause.note (cause : Cause) : String :=
  "caused by: " ++ cause.text

/-- The text of a cause stays on one line. -/
def Cause.OnOneLine (cause : Cause) : Prop :=
  ∀ c ∈ cause.text.toList, c ∉ lineBreaks

instance (cause : Cause) : Decidable cause.OnOneLine :=
  List.decidableBAll _ _

/-- The notes of a failure are those of its causes. -/
theorem toDiagnostic_filterExecution (message : String) (causes : List Cause) (span : Span) :
    (EvalError.filterExecution ⟨message, causes⟩ span).toDiagnostic =
      { (EvalError.filterExecution ⟨message, []⟩ span).toDiagnostic with
        notes := causes.map Cause.note } := by
  rw [EvalError.toDiagnostic_eq, EvalError.toDiagnostic_eq]
  simp only [EvalError.causes, EvalError.filterError?, FilterError.sources, List.map_map,
    Function.comp_def]
  rfl

section AroundNote

variable (color : Bool) (before gutter after : String)

/-- Causes that end in one note, however they begin, are not listed around it if the first of them
is long enough. -/
theorem exists_not_listsInOrder (m : Nat) :
    ∃ causes : List Cause, causes.length = m + 2 ∧ (∀ cause ∈ causes, cause.OnOneLine) ∧
      ¬ ListsInOrder (before ++ remarkText color gutter "Note" (causes.map Cause.note).getLast?
        ++ after) (causes.map Cause.note) := by
  -- the first cause is longer than all of the report that ends in the last note
  let last : Cause := .filter ""
  let whole := before ++ remarkText color gutter "Note" (some last.note) ++ after
  let long : Cause := .filter (String.ofList (List.replicate whole.length 'x'))
  have hlast : last.OnOneLine := by simp [last, Cause.OnOneLine, Cause.text]
  have hlong : long.OnOneLine := by
    intro c hc
    rw [show long.text.toList = List.replicate whole.length 'x' from String.toList_ofList] at hc
    rw [List.eq_of_mem_replicate hc]
    decide
  refine ⟨long :: (List.replicate m long ++ [last]), by simp, ?_, fun h => ?_⟩
  · intro cause hcause
    simp only [List.mem_cons, List.mem_append, List.mem_replicate, List.not_mem_nil,
      or_false] at hcause
    rcases hcause with rfl | ⟨-, rfl⟩ | rfl
    · exact hlong
    · exact hlong
    · exact hlast
  · -- the text ends in the last note, so it is shorter than the first
    have hgetLast : ((long :: (List.replicate m long ++ [last])).map Cause.note).getLast?
        = some last.note := by
      rw [← List.cons_append, List.map_append, List.map_singleton, List.getLast?_concat]
    rw [hgetLast] at h
    have hlength : long.note.length ≤ whole.length := h.length_le
    simp only [Cause.note, Cause.text, long, String.length_append, String.length_ofList,
      List.length_replicate] at hlength
    have hword : ("caused by: " : String).length = 11 := by decide
    omega

/-- A single cause is listed by its note. -/
theorem listsInOrder_of_length_le_one {causes : List Cause} (h : causes.length ≤ 1) :
    ListsInOrder
      (before ++ remarkText color gutter "Note" (causes.map Cause.note).getLast? ++ after)
      (causes.map Cause.note) := by
  match causes, h with
  | [], _ => trivial
  | [cause], _ =>
    refine ⟨before ++ gutter ++ Fragment.write color (.colored .remark "Note") ++ ": ",
      "\n" ++ after, ?_, trivial⟩
    simp only [List.map_cons, List.map_nil, List.getLast?_singleton, remarkText,
      String.append_assoc]

end AroundNote

/-! ### The report of a failure -/

/-- A label of some length that ends in an ASCII source is drawn. -/
theorem labels_layout_ne_nil {source : String} (hascii : ∀ c ∈ source.toList, c.utf8Size = 1)
    {d : Diagnostic} {l : Label} (hlabels : d.labels = [l])
    (hspan : l.span.start.val < l.span.stop.val)
    (hinside : l.span.stop.val ≤ utf8Length source.toList) (filename : String)
    (config : ReportConfig) :
    (Source.ofString source).lines ≠ [] ∧
      ((d.report filename config).layout source).labels ≠ [] := by
  rw [utf8Length_eq_length_iff.mpr hascii, String.length_toList] at hinside
  obtain ⟨line, column, hstands⟩ := exists_standsAt (Nat.lt_of_lt_of_le hspan hinside)
  have hlines := Source.lines_ne_nil_of_standsAt hstands
  refine ⟨hlines, mt (Diagnostic.labels_layout_eq_nil_iff hlines hlabels hspan).mp ?_⟩
  exact Nat.not_lt_of_le (Nat.le_succ_of_le hinside)

/-- **A report lists the causes of a failure exactly if there is at most one.**  Let a filter fail
at a span of some length in an ASCII source, with some message and some chain of causes.  The
diagnostic has a note for each cause, in order; the report has the last of them and is otherwise
the same whatever the causes are.  So the reports list all causes of every chain of `n` of them
iff `n ≤ 1`. -/
theorem render_lists_causes_iff (message source filename : String) (config : ReportConfig)
    (span : Span) (hascii : ∀ c ∈ source.toList, c.utf8Size = 1) (htab : 1 ≤ config.tabWidth)
    (hspan : span.start.val < span.stop.val)
    (hinside : span.stop.val ≤ utf8Length source.toList) :
    let diagnostic (causes : List Cause) : Diagnostic :=
      (EvalError.filterExecution ⟨message, causes⟩ span).toDiagnostic
    let report (causes : List Cause) := (diagnostic causes).render source filename config
    (∀ causes, (diagnostic causes).notes = causes.map Cause.note) ∧
    (∃ before gutter after, ∀ causes, report causes = .ok (before
      ++ remarkText config.color gutter "Note" (causes.map Cause.note).getLast? ++ after)) ∧
    ∀ n, (∀ causes : List Cause, causes.length = n → (∀ cause ∈ causes, cause.OnOneLine) →
        ∃ text, report causes = .ok text ∧ ListsInOrder text (causes.map Cause.note)) ↔ n ≤ 1 := by
  intro diagnostic report
  have hlabels : (diagnostic []).labels = [⟨(diagnostic []).span, "filter failed here"⟩] := rfl
  obtain ⟨hlines, hplaced⟩ := labels_layout_ne_nil hascii hlabels hspan hinside filename config
  -- what stands around the note is fixed before the causes are
  obtain ⟨before, gutter, after, haround⟩ := Diagnostic.exists_render_eq_around_note
    (Diagnostic.hasReversedLabel_eq_false hlabels hspan) (Nat.ne_of_gt htab) hlines hplaced
  have hreport (causes : List Cause) : report causes = .ok (before
      ++ remarkText config.color gutter "Note" (causes.map Cause.note).getLast? ++ after) := by
    rw [← haround, ← toDiagnostic_filterExecution]
  refine ⟨fun causes => ?_, ⟨before, gutter, after, hreport⟩, fun n => ⟨fun h => ?_, ?_⟩⟩
  · exact congrArg Diagnostic.notes (toDiagnostic_filterExecution message causes span)
  · -- from two causes on, some chain is too long for what is around its last note
    refine Nat.le_of_not_lt fun hn => ?_
    obtain ⟨m, rfl⟩ := Nat.exists_eq_add_of_le' hn
    obtain ⟨causes, hlength, honeLine, hnot⟩ :=
      exists_not_listsInOrder config.color before gutter after m
    obtain ⟨text, htext, hlists⟩ := h causes hlength honeLine
    rw [hreport, Except.ok.injEq] at htext
    subst htext
    exact hnot hlists
  · intro hn causes hlength _
    subst hlength
    exact ⟨_, hreport causes, listsInOrder_of_length_le_one config.color before gutter after hn⟩

/-- The failures of a filter that reads dates, at the span of a call. -/
theorem render_lists_causes_iff_date :
    let source := "on due(day)"
    let span : Span := .ofNat 3 11
    let report (causes : List Cause) :=
      (EvalError.filterExecution ⟨"cannot read date", causes⟩ span).toDiagnostic.render source
        "bill.mustache" .plain
    (∀ c ∈ source.toList, c.utf8Size = 1) ∧ 1 ≤ ReportConfig.plain.tabWidth ∧
    span.start.val < span.stop.val ∧ span.stop.val ≤ utf8Length source.toList ∧
    (∃ before gutter after, ∀ causes, report causes = .ok (before
      ++ remarkText false gutter "Note" (causes.map Cause.note).getLast? ++ after)) ∧
    ¬ ∀ causes : List Cause, causes.length = 2 → (∀ cause ∈ causes, cause.OnOneLine) →
      ∃ text, report causes = .ok text ∧ ListsInOrder text (causes.map Cause.note) := by
  intro source span report
  have hascii : ∀ c ∈ source.toList, c.utf8Size = 1 := utf8Length_eq_length_iff.mp (by decide)
  have hinside : span.stop.val ≤ utf8Length source.toList := by decide
  obtain ⟨-, haround, hlists⟩ := render_lists_causes_iff "cannot read date" source "bill.mustache"
    .plain span hascii (by decide) (by decide) hinside
  exact ⟨hascii, by decide, by decide, hinside, haround, mt (hlists 2).mp (by decide)⟩

/-- A failure with two causes behind it.  Both are noted, but the nearer one is not in the
report. -/
theorem report_omits_nearer_cause :
    let source := "on due(day)"
    let failure : FilterError :=
      .causedBy "cannot read date" (.causedByText "wrong month" "13 is too much")
    let d := (EvalError.filterExecution failure (.ofNat 3 11)).toDiagnostic
    let lines := [
      "[E0303] Error: cannot read date\n",
      "   ╭─[bill.mustache:1:4]\n",
      "   │\n",
      " 1 │ on due(day)\n",
      "   │    ────┬───  \n",
      "   │        ╰───── filter failed here\n",
      "   │ \n",
      "   │ Note: caused by: 13 is too much\n",
      "───╯\n"]
    (∀ c ∈ source.toList, c.utf8Size = 1) ∧ d.span.start.val < d.span.stop.val ∧
    d.span.stop.val ≤ utf8Length source.toList ∧
    failure.sources = ["wrong month", "13 is too much"] ∧
    (∀ cause ∈ failure.causes, cause.OnOneLine) ∧
    d.notes = failure.sources.map ("caused by: " ++ ·) ∧
    d.render source "bill.mustache" .plain = .ok (String.join lines) ∧
    ¬ ListsInOrder (String.join lines) (failure.sources.map ("caused by: " ++ ·)) := by
  intro source failure d lines
  have hascii : ∀ c ∈ source.toList, c.utf8Size = 1 := utf8Length_eq_length_iff.mp (by decide)
  -- the report is drawn, and the drawing is a computation
  have htext : d.render source "bill.mustache" .plain = .ok (String.join lines) := by
    obtain ⟨drawn, hdrawn⟩ : ∃ drawn, d.render source "bill.mustache" .plain = .ok drawn :=
      Diagnostic.exists_render (by decide) (by decide) _ _
    have hsome : (d.render source "bill.mustache" .plain).toOption = some (String.join lines) := by
      decide +kernel
    rw [hdrawn] at hsome
    rw [hdrawn, Option.some.inj hsome]
  refine ⟨hascii, by decide, by decide, rfl, by decide, rfl, htext, ?_⟩
  rintro ⟨before, rest, h, -⟩
  -- the note of the nearer cause has a letter that is on no line of the report
  have hletter : 'w' ∈ (String.join lines).toList := by
    rw [h, String.toList_append, String.toList_append]
    exact List.mem_append_left _ (List.mem_append_right _ (by decide))
  rw [String.toList_join] at hletter
  obtain ⟨line, hline, hletter⟩ := List.mem_flatMap.mp hletter
  have hnone : ∀ line ∈ lines, 'w' ∉ line.toList := by decide +kernel
  exact hnone line hline hletter

end TagExpr
