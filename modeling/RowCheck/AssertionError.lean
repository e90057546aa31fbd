import RowCheck.Check
import RowCheck.Config.Error

/-!
# Failed assertions

A failed assertion always names its query. Either no connection could be opened, or the query
failed, or its outcome was rejected.
-/

namespace RowCheck

/-- Why no connection could be opened. -/
inductive SetupError where
  | backend (source : BackendError)
  | configuration (source : Config.Error)
  | system (reason : String)

namespace SetupError

/-- The error in words. -/
def message : SetupError → String
  | .backend source => s!"Database error: {source.message}"
  | .configuration source => s!"Configuration error: {source.message}"
  | .system reason => s!"IO error: {reason}"

/-- The causes behind the error. -/
def causes : SetupError → List String
  | .backend source => source.message :: source.causes
  | .configuration source => source.message :: source.causes
  | .system reason => [reason]

end SetupError

/-- A failed assertion. -/
inductive AssertionError where
  /-- No connection could be opened. -/
  | setup (sql : String) (source : SetupError)
  /-- The query failed, and that was not what was judged. -/
  | execution (sql trace : String)
  /-- The outcome was rejected. -/
  | rejected (sql : String) (source : CheckFailure)

namespace AssertionError

/-- The query that the assertion was about. -/
def sql : AssertionError → String
  | .setup sql _ | .execution sql _ | .rejected sql _ => sql

/-- The error in words. -/
def message : AssertionError → String
  | .setup sql source => s!"exception while executing [{sql}]: {source.message}"
  | .execution sql trace => s!"exception while executing [{sql}]\n{trace}"
  | .rejected sql source => s!"assertion failed for [{sql}]: {source.message}"

/-- The causes behind the error. -/
def causes : AssertionError → List String
  | .setup _ source => source.message :: source.causes
  | .execution .. => []
  | .rejected _ source => [source.message]

end AssertionError

end RowCheck
