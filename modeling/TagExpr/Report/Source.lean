/-
TagExpr/Report/Source.lean

The source of a report, cut into lines.

A line ends after a line feed, a carriage return, the two together, a vertical tab, a form
feed, or one of the separators U+0085, U+2028 and U+2029, and keeps what ends it.  Places in
the source are counted in characters, both here and in the labels that reports draw:

    lineAt? off = the last line that begins at or before off,
                  if the source has lines and off is at most its length.
-/

namespace TagExpr

/-- A line of the source and the number of characters before it. -/
structure SourceLine where
  offset : Nat
  text : List Char
  deriving DecidableEq

namespace SourceLine

/-- Where the line that follows begins. -/
def stop (l : SourceLine) : Nat :=
  l.offset + l.text.length

/-- The character at an offset belongs to the line. -/
def covers (l : SourceLine) (off : Nat) : Bool :=
  l.offset ≤ off && off < l.stop

end SourceLine

/-- Characters that end a line. -/
def lineBreaks : List Char :=
  ['\n', '\r', '\x0b', '\x0c', '\u0085', '\u2028', '\u2029']

/-- A line ends after `c`, with `rest` behind it; a carriage return waits for a line feed. -/
def endsLine (c : Char) (rest : List Char) : Bool :=
  lineBreaks.contains c && !(c = '\r' && rest.head? = some '\n')

/-- A text cut after each line's end. -/
def splitLines : List Char → List (List Char)
  | [] => []
  | c :: cs =>
    if endsLine c cs then [c] :: splitLines cs
    else
      match splitLines cs with
      | [] => [[c]]
      | l :: ls => (c :: l) :: ls

theorem flatten_splitLines (cs : List Char) : (splitLines cs).flatten = cs := by
  induction cs with
  | nil => rfl
  | cons c cs ih =>
    unfold splitLines
    split
    · simp [ih]
    · split
      · next h => simp [h] at ih; simp [← ih]
      · next l ls h => simp [h] at ih; simp [ih]

/-- Lines with their offsets, the first one at `off`. -/
def withOffsets (off : Nat) : List (List Char) → List SourceLine
  | [] => []
  | l :: ls => ⟨off, l⟩ :: withOffsets (off + l.length) ls

/-- A source in lines. -/
structure Source where
  lines : List SourceLine
  length : Nat

namespace Source

/-- The lines of a text. -/
def ofString (text : String) : Source :=
  ⟨withOffsets 0 (splitLines text.toList), text.length⟩

/-- The number of the line of an offset, counted from zero. -/
def lineAt? (s : Source) (off : Nat) : Option Nat :=
  if off ≤ s.length ∧ s.lines ≠ [] then some (s.lines.countP (·.offset ≤ off) - 1) else none

/-- Line and column of an offset, both counted from one. -/
def location? (s : Source) (off : Nat) : Option (Nat × Nat) := do
  let n ← s.lineAt? off
  let l ← s.lines[n]?
  return (n + 1, off - l.offset + 1)

end Source

end TagExpr
