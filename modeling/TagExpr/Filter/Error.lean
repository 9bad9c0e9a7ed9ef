/-
TagExpr/Filter/Error.lean

What a filter reports when it fails.

A filter error has a message and a chain of causes, the nearest first.  A cause is the
message of a further filter error or an error of another kind, of which only its text and
its inspected form are known.
-/
import TagExpr.Text.Inspected
import TagExpr.Text.Quoted

namespace TagExpr

/-- A link of a chain of causes. -/
inductive Cause where
  | filter (message : String)
  | foreign (text inspected : String)
  deriving DecidableEq

/-- The text of a cause as users see it. -/
def Cause.text : Cause → String
  | filter message => message
  | foreign text _ => text

/-- The failure of a filter. -/
structure FilterError where
  message : String
  causes : List Cause
  deriving DecidableEq

namespace FilterError

/-- An error without a cause. -/
def new (message : String) : FilterError :=
  ⟨message, []⟩

/-- An error caused by another filter error. -/
def causedBy (message : String) (e : FilterError) : FilterError :=
  ⟨message, .filter e.message :: e.causes⟩

/-- An error caused by a plain text. -/
def causedByText (message text : String) : FilterError :=
  ⟨message, [.foreign text (quoted text)]⟩

/-- The texts of the causes, the nearest first. -/
def sources (e : FilterError) : List String :=
  e.causes.map Cause.text

/-- A filter error in inspected form, given that of its cause. -/
def inspectLink (message source : String) : String :=
  inspectRecord "FilterError" [("message", quoted message), ("source", source)]

/-- The inspected form of a chain of causes; an error of another kind shows what is behind it. -/
def inspectCauses : List Cause → String
  | [] => "None"
  | .filter message :: rest => "Some(" ++ inspectLink message (inspectCauses rest) ++ ")"
  | .foreign _ inspected :: _ => "Some(" ++ inspected ++ ")"

/-- The inspected form of an error with its chain of causes. -/
def inspect (e : FilterError) : String :=
  inspectLink e.message (inspectCauses e.causes)

end FilterError

end TagExpr
