import RowCheck.Sql.Error
import RowCheck.Server.Error

/-!
# Backend errors

How a backend fails: in words, as the chain of causes behind it, and as the record that shows all
its parts.
-/

namespace RowCheck

/-- How connecting to a backend, or running a query on it, can fail. -/
inductive BackendError where
  | connectionFailed (reason : String)
  /-- The connection went away between two queries. -/
  | connectionLost (reason : String)
  | queryFailed (reason : String)
  /-- The in-process engine failed. -/
  | engine (source : Sql.Error)
  /-- The request to the server failed. -/
  | server (source : Server.Error)
  /-- A value has no reader that gives the server's text for it. -/
  | undecodable (column typeName : String) (source : Server.Error)
  | cloneFailed (reason : String)

namespace BackendError

/-- The error in words. -/
def message : BackendError → String
  | .connectionFailed reason => s!"Connection failed: {reason}"
  | .connectionLost reason => s!"Connection lost: {reason}"
  | .queryFailed reason => s!"Query execution failed: {reason}"
  | .engine source => s!"Query execution failed: {source.message}"
  | .server source => s!"Query execution failed: {source.message}"
  | .undecodable column typeName _ => s!"Cannot render column '{column}' of type {typeName}"
  | .cloneFailed reason => s!"Dataset clone failed: {reason}"

/-- What the error was caused by. -/
def source? : BackendError → Option Fault
  | .engine source => some source.fault
  | .server source | .undecodable _ _ source => some source.fault
  | .connectionFailed _ | .connectionLost _ | .queryFailed _ | .cloneFailed _ => none

/-- The error as the record that shows all its parts. -/
def record : BackendError → String
  | .connectionFailed reason => "ConnectionFailed(" ++ Text.quoted reason ++ ")"
  | .connectionLost reason => "ConnectionLost(" ++ Text.quoted reason ++ ")"
  | .queryFailed reason => "QueryFailed(" ++ Text.quoted reason ++ ")"
  | .engine source => s!"Sqlite({source.record})"
  | .server source => s!"Postgres({source.record})"
  | .undecodable column typeName source =>
    let quotedColumn := Text.quoted column
    let quotedType := Text.quoted typeName
    s!"Undecodable \x7b column: {quotedColumn}, type_name: {quotedType}, source: {source.record} \x7d"
  | .cloneFailed reason => "CloneFailed(" ++ Text.quoted reason ++ ")"

/-- The error with all that is behind it. -/
def fault (e : BackendError) : Fault := .of e.message e.record e.source?

/-- The causes behind the error, the nearest one first. -/
def causes (e : BackendError) : List String := e.fault.causes

end BackendError

end RowCheck
