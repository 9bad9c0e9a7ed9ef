/-
TagExpr/Text/Blank.lean

White space: the twenty-five characters of the Unicode property White_Space.

Reports draw any of them as a plain space and leave out those at the end of a line.
-/
import TagExpr.Text.CharRange

namespace TagExpr

/-- The Unicode property White_Space. -/
def blankTable : CharTable where
  ranges := [
    (0x9, 0xD), (0x20, 0x20), (0x85, 0x85), (0xA0, 0xA0), (0x1680, 0x1680), (0x2000, 0x200A),
    (0x2028, 0x2029), (0x202F, 0x202F), (0x205F, 0x205F), (0x3000, 0x3000)]
  ordered := by decide

/-- A white space character. -/
def isBlank (c : Char) : Bool :=
  blankTable.has c

/-- A line of text without the white space at its end. -/
def dropTrailingBlanks (cs : List Char) : List Char :=
  (cs.reverse.dropWhile isBlank).reverse

end TagExpr
