/-
TagExpr/Report/Fragment.lean

Text in colours.

A report is laid out as rows of fragments, each with a text and an ink.  A colour is written as
an escape sequence before a text and another one after it.  Which colours are written depends
on where they come from: those of the drawing itself are switched on or off together, and that
of a label is written whenever the label has one.
-/

namespace TagExpr

/-! ### Colours -/

/-- A colour of a terminal: one of the basic ones, or one of the palette of 256. -/
inductive Color where
  | basic (code : Nat)
  | indexed (index : Nat)
  deriving DecidableEq

namespace Color

/-- The parameters that choose the colour. -/
def parameters : Color → String
  | basic code => toString code
  | indexed index => "38;5;" ++ toString index

/-- Numbers and rulers of the margin. -/
def margin : Color := indexed 246

/-- The margin beside rows without a line number. -/
def skippedMargin : Color := indexed 240

/-- Source text under no label. -/
def unlabelled : Color := indexed 249

/-- The words `Help` and `Note`. -/
def remark : Color := indexed 115

/-- The state, of 16 bits, behind one of the three components of the label colour numbered `i`.  All
three start apart and step by odd multiples of a constant, so neighbouring labels look different. -/
def component (start step i : Nat) : Nat :=
  (start + (i + 1) * step) % 65536

/-- The colour of the label numbered `i`, in the bright half of the palette's colour cube. -/
def ofLabel (i : Nat) : Color :=
  let brightness (start step : Nat) := component start step i + 65535
  let level := 180 * brightness 30000 (40503 * 1130) + 30 * brightness 15000 (40503 * 1134)
    + 5 * brightness 35000 (40503 * 1138)
  indexed (16 + level / (2 * 65535))

end Color

/-- What a text is drawn in. -/
inductive Ink where
  /-- No colour. -/
  | plain
  /-- A colour of the drawing itself. -/
  | drawn (color : Color)
  /-- The colour of a label, if the label has one. -/
  | label (color : Option Color)
  deriving DecidableEq

/-- The colour that is written; `own` says whether the drawing writes its own. -/
def Ink.color? (own : Bool) : Ink → Option Color
  | plain => none
  | drawn color => if own then some color else none
  | label color => color

/-! ### Fragments -/

/-- A text and what it is drawn in. -/
structure Fragment where
  ink : Ink
  text : String
  deriving DecidableEq

namespace Fragment

/-- A text without a colour. -/
def plain (text : String) : Fragment :=
  ⟨.plain, text⟩

/-- A text in a colour of the drawing. -/
def colored (color : Color) (text : String) : Fragment :=
  ⟨.drawn color, text⟩

/-- A text in the colour of a label. -/
def labelled (color : Option Color) (text : String) : Fragment :=
  ⟨.label color, text⟩

/-- A text in a colour, in front of and followed by escape sequences. -/
def escaped (color : Color) (text : String) : String :=
  "\x1b[" ++ color.parameters ++ "m" ++ text ++ "\x1b[0m"

/-- A fragment as text, with the colours of the drawing or without them. -/
def write (colors : Bool) (f : Fragment) : String :=
  match f.ink.color? colors with
  | some color => escaped color f.text
  | none => f.text

end Fragment

/-- One row of a report. -/
abbrev Row : Type := List Fragment

/-- Rows as text, each ended by a line feed. -/
def writeRows (colors : Bool) (rows : List Row) : String :=
  String.join (rows.map fun row => String.join (row.map (Fragment.write colors)) ++ "\n")

end TagExpr
