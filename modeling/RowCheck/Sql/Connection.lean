import RowCheck.Sql.Copy
import RowCheck.Sql.Fixtures

/-!
# Connections to the in-process engine

A connection is a database of its own and the name under which it runs queries.
-/

namespace RowCheck.Sql

/-- What a connection was opened for. -/
inductive Purpose where
  | blank
  | fixtures
  /-- A copy of data that is elsewhere. -/
  | clone
  deriving DecidableEq, Repr

/-- The name of a connection. -/
def Purpose.name : Purpose → String
  | .blank => "sqlite"
  | .fixtures => "fixtures"
  | .clone => "clone"

/-- A connection to a database in memory. -/
structure Connection where
  database : Database
  purpose : Purpose
  deriving DecidableEq

namespace Connection

/-- A connection to a database without tables. -/
def blank : Connection := ⟨.empty, .blank⟩

/-- A connection to the fixture data. -/
def fixtures : Connection := ⟨.fixtures, .fixtures⟩

/-- The name of a connection. -/
def name (c : Connection) : String := c.purpose.name

/-- Attaches a schema, which makes the connection one to a copy. -/
def attach (c : Connection) (schema : String) : Except BackendError Connection :=
  match c.database.attachSchema schema with
  | .ok db => .ok ⟨db, .clone⟩
  | .error e => .error (.cloneFailed e.message)

/-- Copies a result into a new table. -/
def load (c : Connection) (schema table : String) (r : Results) :
    Except BackendError Unit × Connection :=
  let (outcome, db) := c.database.load schema table r
  (match outcome with
    | .ok () => .ok ()
    | .error e => .error (.cloneFailed s!"Loading {schema}.{table}: {e.message}"),
    { c with database := db })

/-- Runs a query. -/
def execute (c : Connection) (sql : String) : Except Failure Results × Connection :=
  let (outcome, db) := c.database.execute sql
  (outcome, { c with database := db })

end Connection

end RowCheck.Sql
