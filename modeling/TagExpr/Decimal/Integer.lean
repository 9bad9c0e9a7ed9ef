/-
TagExpr/Decimal/Integer.lean

Reading decimal text as an integer of 64 bits.

The text is an optional sign and one or more ASCII digits, nothing else.  What is wrong with
a text is found from the left: a character that is no digit counts as such even if the
digits before it are already too many, unless the number has left the range by then.
-/
import TagExpr.Text.Inspected

namespace TagExpr

/-- Why a text is no integer of 64 bits. -/
inductive IntegerFault where
  | empty
  | invalidDigit
  | tooLarge
  | tooSmall
  deriving DecidableEq

namespace IntegerFault

/-- The fault as users see it. -/
def message : IntegerFault → String
  | empty => "cannot parse integer from empty string"
  | invalidDigit => "invalid digit found in string"
  | tooLarge => "number too large to fit in target type"
  | tooSmall => "number too small to fit in target type"

/-- The inspected form of the fault. -/
def inspect (f : IntegerFault) : String :=
  let kind :=
    match f with
    | empty => "Empty"
    | invalidDigit => "InvalidDigit"
    | tooLarge => "PosOverflow"
    | tooSmall => "NegOverflow"
  inspectRecord "ParseIntError" [("kind", kind)]

end IntegerFault

/-- Digits read onto a magnitude `n` that stays at most `limit`; `fault` is the answer beyond it. -/
def readDigits (limit : Nat) (fault : IntegerFault) (n : Nat) :
    List Char → Except IntegerFault Nat
  | [] => .ok n
  | c :: cs =>
    if c.isDigit then
      let next := 10 * n + (c.toNat - '0'.toNat)
      if next ≤ limit then readDigits limit fault next cs else .error fault
    else .error .invalidDigit

/-- The integer of 64 bits that a text denotes. -/
def readInt64 (s : String) : Except IntegerFault Int64 :=
  match s.toList with
  | [] => .error .empty
  | ['+'] => .error .invalidDigit
  | ['-'] => .error .invalidDigit
  | '-' :: cs => (readDigits (Nat.pow 2 63) .tooSmall 0 cs).map fun n => Int64.ofInt (-n)
  | '+' :: cs => (readDigits (Nat.pow 2 63 - 1) .tooLarge 0 cs).map fun n => Int64.ofInt n
  | cs => (readDigits (Nat.pow 2 63 - 1) .tooLarge 0 cs).map fun n => Int64.ofInt n

end TagExpr
