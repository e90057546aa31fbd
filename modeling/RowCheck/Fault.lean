/-!
# Faults

An error as it is seen by those who report it: in words, as a record that shows all its parts, and
with the error that it was caused by, which may have a cause of its own.
-/

namespace RowCheck

/-- An error with all that is behind it. -/
inductive Fault where
  /-- An error that nothing is behind. -/
  | root (message record : String)
  | caused (message record : String) (source : Fault)
  deriving DecidableEq, Repr

namespace Fault

/-- The error in words. -/
def message : Fault → String
  | .root message _ | .caused message _ _ => message

/-- The error as the record that it is reported in. -/
def record : Fault → String
  | .root _ record | .caused _ record _ => record

/-- What the error was caused by. -/
def source? : Fault → Option Fault
  | .root .. => none
  | .caused _ _ source => some source

/-- The causes behind the error, the nearest one first. -/
def causes : Fault → List String
  | .root .. => []
  | .caused _ _ source => source.message :: source.causes

/-- An error with its cause, if it has one. -/
def of (message record : String) : Option Fault → Fault
  | none => .root message record
  | some source => .caused message record source

end Fault

end RowCheck
