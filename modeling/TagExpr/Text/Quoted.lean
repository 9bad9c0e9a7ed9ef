/-
TagExpr/Text/Quoted.lean

Texts quoted for inspection.

A quoted text stands between double quotes.  The double quote, the backslash and four
controls have short escapes, marks and characters without a visible form are written by
their number, and all others stand for themselves:

    "a\"b"  →  \"a\\\"b\"      U+0301  →  \u{301}
-/
import TagExpr.Text.Ignorable
import TagExpr.Text.Mark
import TagExpr.Text.Unprintable

namespace TagExpr

/-- A character by its number: hexadecimal, lower case, without leading zeros. -/
def numberEscape (c : Char) : String :=
  "\\u\x7b" ++ String.ofList (Nat.toDigits 16 c.toNat) ++ "\x7d"

/-- One character inside a quoted text. -/
def escapeChar (c : Char) : String :=
  if c = '"' then "\\\""
  else if c = '\\' then "\\\\"
  else if c = '\x00' then "\\0"
  else if c = '\t' then "\\t"
  else if c = '\r' then "\\r"
  else if c = '\n' then "\\n"
  else if ' ' ≤ c ∧ c ≤ '~' then c.toString
  else if isMark c || isIgnorable c || isUnprintable c then numberEscape c
  else c.toString

/-- A text between double quotes, escaped. -/
def quoted (s : String) : String :=
  "\"" ++ String.join (s.toList.map escapeChar) ++ "\""

end TagExpr
