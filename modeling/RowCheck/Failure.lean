import RowCheck.BackendError

/-!
# Failures of queries

A query fails with an error of the backend, or because the connection broke down in the middle of
it. Its trace is the full diagnostic text: the message, the chain of causes, and the record of the
error.
-/

namespace RowCheck

/-- How a query failed. -/
inductive Failure where
  | error (e : BackendError)
  /-- The connection broke down. -/
  | panicked (message : String)

/-- What a connection throws when it breaks down. -/
inductive Payload where
  /-- A text that stands in the program. -/
  | literal (text : String)
  /-- A text that was put together. -/
  | text (text : String)
  /-- Anything else. -/
  | other

/-- The message of a breakdown. Of a payload that is no text only its type is known. -/
def Payload.message : Payload → String
  | .literal s | .text s => s
  | .other => "Box<dyn Any>"

namespace Failure

/-- The failure of a breakdown that was caught. -/
def ofPanic (p : Payload) : Failure := .panicked p.message

/-- The error of a failure that is no breakdown. -/
def toError : (f : Failure) → (∀ message, f ≠ .panicked message) → BackendError
  | .error e, _ => e
  | .panicked message, sound => absurd rfl (sound message)

/-- The failure in words. -/
def message : Failure → String
  | .error e => e.message
  | .panicked message => s!"panicked: {message}"

/-- The lines of a trace. -/
def traceLines : Failure → List String
  | .error e => e.message :: e.causes.map (fun cause => s!"Caused by: {cause}") ++ [e.record]
  | .panicked message => [s!"panicked: {message}"]

/-- The full diagnostic text, every line of it ended by a line feed. -/
def trace (f : Failure) : String :=
  String.ofList (f.traceLines.flatMap fun line => line.toList ++ ['\n'])

end Failure

end RowCheck
