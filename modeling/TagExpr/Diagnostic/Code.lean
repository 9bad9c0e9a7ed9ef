/-
TagExpr/Diagnostic/Code.lean

The codes of diagnostics, with their descriptions and suggested fixes.
-/

namespace TagExpr

/-- The code of a diagnostic. -/
inductive ErrorCode where
  | missingFilter
  | notAFilter
  | tooManyArguments
  | filterFailed
  deriving DecidableEq

namespace ErrorCode

/-- All codes, in order. -/
def all : List ErrorCode :=
  [missingFilter, notAFilter, tooManyArguments, filterFailed]

/-- The code as it is printed. -/
def print : ErrorCode → String
  | missingFilter => "E0300"
  | notAFilter => "E0301"
  | tooManyArguments => "E0302"
  | filterFailed => "E0303"

/-- The name of the code in inspected form. -/
def name : ErrorCode → String
  | missingFilter => "MissingFilter"
  | notAFilter => "NotAFilter"
  | tooManyArguments => "TooManyArguments"
  | filterFailed => "FilterFailed"

/-- What went wrong. -/
def description : ErrorCode → String
  | missingFilter => "missing filter"
  | notAFilter => "value in filter position is not a filter"
  | tooManyArguments => "filter called with too many arguments"
  | filterFailed => "filter reported an error"

/-- What may mend it; a filter that fails says itself what is wrong. -/
def suggestion : ErrorCode → Option String
  | missingFilter =>
    some "check the spelling or make sure the filter is registered in the context"
  | notAFilter => some "a value with the same name shadows the filter; rename one of them"
  | tooManyArguments =>
    some "check the filter's documentation for the expected number of arguments"
  | filterFailed => none

end ErrorCode

end TagExpr
