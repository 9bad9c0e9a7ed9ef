/-
TagExpr/Proofs/EscapeSequences.lean

Escape sequences of colours, and rows with and without them.

Such a sequence is the escape character, an opening bracket, numbers between semicolons, and an
`m`; `withoutColors` deletes all of them from a text.  A row is written with a sequence before
and one behind each fragment whose colour is written.  So if no fragment has an escape character
itself,

    withoutColors (writeRows colors rows)  =  the texts of the rows,

whatever colours are written; and if none is, that is how the rows are written.
-/
import TagExpr.Proofs.LabelColors

namespace TagExpr

/-! ### Escape sequences of colours -/

/-- A character between the bracket and the `m`. -/
def isParameter (c : Char) : Bool :=
  c.isDigit || c = ';'

/-- What stands behind the escape sequence that a text begins with. -/
def dropSequence? : List Char → Option (List Char)
  | '\x1b' :: '[' :: cs =>
    match cs.dropWhile isParameter with
    | 'm' :: rest => some rest
    | _ => none
  | _ => none

theorem length_lt_of_dropSequence? {cs rest : List Char} (h : dropSequence? cs = some rest) :
    rest.length < cs.length := by
  unfold dropSequence? at h
  split at h
  · next cs =>
    split at h
    · next rest' hdrop =>
      obtain rfl := Option.some.inj h
      have hle := (List.dropWhile_suffix isParameter (l := cs)).length_le
      rw [hdrop] at hle
      simp only [List.length_cons] at hle ⊢
      omega
    · cases h
  · cases h

/-- A text with all escape sequences of colours deleted. -/
def withoutColors (cs : List Char) : List Char :=
  match _h : dropSequence? cs with
  | some rest => withoutColors rest
  | none =>
    match cs with
    | [] => []
    | c :: cs => c :: withoutColors cs
termination_by cs.length
decreasing_by
  · exact length_lt_of_dropSequence? _h
  · simp

theorem withoutColors_of_dropSequence? {cs rest : List Char} (h : dropSequence? cs = some rest) :
    withoutColors cs = withoutColors rest := by
  rw [withoutColors]
  split
  · next h' =>
    rw [h] at h'
    cases h'
    rfl
  · next h' =>
    rw [h] at h'
    cases h'

theorem withoutColors_nil : withoutColors [] = [] := by
  rw [withoutColors]
  rfl

theorem withoutColors_cons {c : Char} (hc : c ≠ '\x1b') (cs : List Char) :
    withoutColors (c :: cs) = c :: withoutColors cs := by
  -- no sequence begins with another character
  have hnone : dropSequence? (c :: cs) = none := by
    unfold dropSequence?
    split
    · next heq =>
      cases heq
      exact absurd rfl hc
    · rfl
  rw [withoutColors]
  split
  · next h' =>
    rw [hnone] at h'
    cases h'
  · rfl

/-- A text without escape characters stays as it is, whatever stands behind it. -/
theorem withoutColors_append {cs : List Char} (hcs : '\x1b' ∉ cs) (ds : List Char) :
    withoutColors (cs ++ ds) = cs ++ withoutColors ds := by
  induction cs with
  | nil => rfl
  | cons c cs ih =>
    rw [List.mem_cons, not_or] at hcs
    rw [List.cons_append, withoutColors_cons (Ne.symm hcs.1), ih hcs.2, List.cons_append]

theorem withoutColors_sequence {ps : List Char} (hps : ∀ p ∈ ps, isParameter p = true)
    (ds : List Char) :
    withoutColors ('\x1b' :: '[' :: (ps ++ 'm' :: ds)) = withoutColors ds := by
  have hdrop : (ps ++ 'm' :: ds).dropWhile isParameter = 'm' :: ds := by
    rw [List.dropWhile_append_of_pos hps]
    rfl
  apply withoutColors_of_dropSequence?
  simp only [dropSequence?, hdrop]

theorem Color.isParameter_of_mem (color : Color) : ∀ p ∈ color.parameters.toList,
    isParameter p = true := by
  -- a colour is written in digits, after the `38;5;` of the palette
  have hdigits (n : Nat) : ∀ p ∈ (toString n).toList, isParameter p = true := by
    intro p hp
    rw [isParameter, isDigit_of_mem_toString hp, Bool.true_or]
  cases color with
  | basic code => exact hdigits code
  | indexed index =>
    have hpalette : ("38;5;" : String).toList.all isParameter = true := by decide
    intro p hp
    rw [parameters, String.toList_append, List.mem_append] at hp
    exact hp.elim (List.all_eq_true.mp hpalette p) (hdigits index p)

/-! ### Texts without escape characters -/

/-- The text has no escape character. -/
def Unescaped (text : String) : Prop :=
  '\x1b' ∉ text.toList

instance (text : String) : Decidable (Unescaped text) :=
  inferInstanceAs (Decidable (¬ _))

@[simp] theorem unescaped_append {s t : String} :
    Unescaped (s ++ t) ↔ Unescaped s ∧ Unescaped t := by
  simp only [Unescaped, String.toList_append, List.mem_append, not_or]

@[simp] theorem unescaped_ofList {cs : List Char} : Unescaped (String.ofList cs) ↔ '\x1b' ∉ cs := by
  rw [Unescaped, String.toList_ofList]

@[simp] theorem unescaped_repr (n : Nat) : Unescaped n.repr := by
  intro h
  exact absurd (isDigit_of_mem_toString h) (by decide)

/-- The text of a fragment has no escape character. -/
def Fragment.Unescaped (f : Fragment) : Prop :=
  TagExpr.Unescaped f.text

@[simp] theorem Fragment.unescaped_plain {text : String} :
    (plain text).Unescaped ↔ TagExpr.Unescaped text := .rfl

@[simp] theorem Fragment.unescaped_colored {color : Color} {text : String} :
    (colored color text).Unescaped ↔ TagExpr.Unescaped text := .rfl

@[simp] theorem Fragment.unescaped_labelled {color : Option Color} {text : String} :
    (labelled color text).Unescaped ↔ TagExpr.Unescaped text := .rfl

/-- No fragment of the row has an escape character. -/
def Row.Unescaped (row : Row) : Prop :=
  ∀ f ∈ row, f.Unescaped

namespace Row

@[simp] theorem unescaped_nil : Row.Unescaped [] := nofun

@[simp] theorem unescaped_cons {f : Fragment} {row : Row} :
    Row.Unescaped (f :: row) ↔ f.Unescaped ∧ Row.Unescaped row :=
  List.forall_mem_cons

@[simp] theorem unescaped_append {row row' : Row} :
    Row.Unescaped (row ++ row') ↔ Row.Unescaped row ∧ Row.Unescaped row' :=
  List.forall_mem_append

end Row

/-! ### Rows with and without colours -/

/-- The texts of rows, each row ended by a line feed. -/
def rowsText (rows : List Row) : String :=
  String.join (rows.map fun row => String.join (row.map Fragment.text) ++ "\n")

/-- A fragment is its text, once escape sequences are deleted. -/
theorem withoutColors_write (colors : Bool) {f : Fragment} (hf : f.Unescaped) (ds : List Char) :
    withoutColors ((f.write colors).toList ++ ds) = f.text.toList ++ withoutColors ds := by
  unfold Fragment.write
  rcases f.ink.color? colors with - | color
  · exact withoutColors_append hf ds
  · -- the sequence of the colour, the text, and the sequence that ends the colour
    have hbegin : ("\x1b[" : String).toList = ['\x1b', '['] := rfl
    have hm : ("m" : String).toList = ['m'] := rfl
    have hend : ("\x1b[0m" : String).toList = ['\x1b', '[', '0', 'm'] := rfl
    simp only [Fragment.escaped, String.toList_append, hbegin, hm, hend, List.append_assoc,
      List.cons_append, List.nil_append]
    have hreset : ['0'].all isParameter = true := by decide
    rw [withoutColors_sequence color.isParameter_of_mem, withoutColors_append hf]
    exact congrArg (f.text.toList ++ ·) (withoutColors_sequence (List.all_eq_true.mp hreset) ds)

theorem withoutColors_row (colors : Bool) {row : Row} (hrow : row.Unescaped) (ds : List Char) :
    withoutColors ((String.join (row.map (Fragment.write colors))).toList ++ ds)
      = (String.join (row.map Fragment.text)).toList ++ withoutColors ds := by
  induction row with
  | nil => rfl
  | cons f row ih =>
    obtain ⟨hf, hrow⟩ := Row.unescaped_cons.mp hrow
    simp only [List.map_cons, String.join_cons, String.toList_append, List.append_assoc]
    rw [withoutColors_write colors hf, ih hrow]

theorem toList_join_rows (text : Fragment → String) (row : Row) (rows : List Row) :
    (String.join ((row :: rows).map fun row => String.join (row.map text) ++ "\n")).toList
      = (String.join (row.map text)).toList ++ (['\n']
        ++ (String.join (rows.map fun row => String.join (row.map text) ++ "\n")).toList) := by
  rw [List.map_cons, String.join_cons, String.toList_append, String.toList_append,
    List.append_assoc]
  rfl

/-- **Rows are their texts, once escape sequences are deleted**, whatever colours they have. -/
theorem withoutColors_writeRows (colors : Bool) {rows : List Row}
    (hrows : ∀ row ∈ rows, row.Unescaped) :
    withoutColors (writeRows colors rows).toList = (rowsText rows).toList := by
  have hfeed : '\x1b' ∉ ['\n'] := by decide
  induction rows with
  | nil => exact withoutColors_nil
  | cons row rows ih =>
    obtain ⟨hrow, hrows⟩ := List.forall_mem_cons.mp hrows
    rw [writeRows, toList_join_rows, withoutColors_row colors hrow, withoutColors_append hfeed,
      ← writeRows, ih hrows, rowsText, rowsText, toList_join_rows]

/-- A fragment without the colour of a label is written as its text where the drawing writes no
colours. -/
theorem Fragment.write_false_uncolored (f : Fragment) : f.uncolored.write false = f.text := by
  obtain ⟨ink, text⟩ := f
  cases ink <;> rfl

/-- **Rows without colours of labels are written as their texts**, if the drawing writes no colours
of its own. -/
theorem writeRows_false_uncolored (rows : List Row) :
    writeRows false (rows.map Row.uncolored) = rowsText rows := by
  simp only [writeRows, rowsText, Row.uncolored, List.map_map, Function.comp_def,
    Fragment.write_false_uncolored]

/-- Rows without escape characters have texts without them. -/
theorem unescaped_rowsText {rows : List Row} (hrows : ∀ row ∈ rows, row.Unescaped) :
    Unescaped (rowsText rows) := by
  intro h
  rw [rowsText, String.toList_join, List.mem_flatMap] at h
  obtain ⟨line, hline, h⟩ := h
  obtain ⟨row, hrow, rfl⟩ := List.mem_map.mp hline
  rw [String.toList_append, List.mem_append, String.toList_join, List.mem_flatMap] at h
  rcases h with ⟨text, htext, h⟩ | h
  · obtain ⟨f, hf, rfl⟩ := List.mem_map.mp htext
    exact hrows row hrow f hf h
  · exact absurd h (by decide)

end TagExpr
