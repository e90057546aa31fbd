import RowCheck.Sql.Connection
import RowCheck.Server.Session

/-!
# Connections

What queries are run on: the in-process engine, a session with a server, or a script that answers
by what it was asked before.
-/

namespace RowCheck

/-- A connection that answers from a script. -/
structure Scripted where
  name : String
  /-- The answer to a query, after all queries before it. -/
  answer : List String → String → Except Failure Results
  /-- The queries that were run, in order. -/
  received : List String

/-- Runs a query. -/
def Scripted.execute (s : Scripted) (sql : String) : Except Failure Results × Scripted :=
  (s.answer s.received sql, { s with received := s.received ++ [sql] })

/-- A connection to a backend. -/
inductive Connection where
  | engine (c : Sql.Connection)
  | server (s : Server.Session)
  | scripted (s : Scripted)

namespace Connection

/-- The name of the backend. -/
def name : Connection → String
  | .engine c => c.name
  | .server s => s.name
  | .scripted s => s.name

/-- Runs a query. -/
def execute : Connection → String → Except Failure Results × Connection
  | .engine c, sql => (c.execute sql).map id .engine
  | .server s, sql => (s.execute sql).map id .server
  | .scripted s, sql => (s.execute sql).map id .scripted

/-- What has reached the server, if the connection has one. -/
def traffic : Connection → Server.Traffic
  | .server s => s.traffic
  | .engine _ | .scripted _ => .empty

end Connection

end RowCheck
