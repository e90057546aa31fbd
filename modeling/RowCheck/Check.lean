import RowCheck.Failure
import RowCheck.Text.Split

/-!
# Judging outcomes

A query is judged by what it was expected to do: nothing in particular, return certain rows, or fail
in a certain way.
-/

namespace RowCheck

/-- Why an outcome was rejected. -/
inductive CheckFailure where
  /-- The rows differ from the expected text. -/
  | mismatch (expected actual : String)
  /-- The query was expected to fail. -/
  | unexpectedSuccess (expected : String)
  /-- The trace of the failure does not contain the expected text. -/
  | missingSubstring (expected trace : String)
  /-- A caller's own check rejects the outcome. -/
  | custom (message : String)
  deriving DecidableEq, Repr

/-- The rejection in words. -/
def CheckFailure.message : CheckFailure → String
  | .mismatch expected actual => s!"result mismatch\nexpected:\n{expected}\nactual:\n{actual}"
  | .unexpectedSuccess expected =>
    s!"expected an error containing [{expected}] but query succeeded"
  | .missingSubstring expected trace =>
    s!"error trace does not contain [{expected}]\n{trace}"
  | .custom message => message

/-- The verdict on an outcome. -/
abbrev Verdict := Except CheckFailure Unit

/-- What a query is expected to do. -/
inductive Expectation where
  /-- To run, whatever its rows. -/
  | runs
  /-- To return rows whose canonical text passes a check. -/
  | rows (check : String → Verdict)
  /-- To fail in a way that passes a check, which is given nothing when the query succeeds. -/
  | fails (check : Option Failure → Verdict)

namespace Expectation

/-- Requires the canonical text to be exactly this one. -/
def exactText (expected actual : String) : Verdict :=
  if actual = expected then .ok () else .error (.mismatch expected actual)

/-- Requires a failure whose trace contains a text; letter case counts. -/
def failureWith (expected : String) : Option Failure → Verdict
  | none => .error (.unexpectedSuccess expected)
  | some failure =>
    if Text.occurs expected.toList failure.trace.toList then .ok ()
    else .error (.missingSubstring expected failure.trace)

/-- Requires the canonical text to have a number of line feeds. -/
def lineCount (expected : Nat) (actual : String) : Verdict :=
  let count := actual.toList.count '\n'
  if count = expected then .ok ()
  else .error (.custom s!"expected {expected} lines, got {count}")

/-- Requires the canonical text to contain a text. -/
def containing (part actual : String) : Verdict :=
  if Text.occurs part.toList actual.toList then .ok ()
  else .error (.custom s!"rows do not contain [{part}]")

end Expectation

end RowCheck
