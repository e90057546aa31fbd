import RowCheck.Sql.Change
import RowCheck.Sql.Parser
import RowCheck.Results
import RowCheck.Failure

/-!
# The in-process engine

Running a statement on a database. Only the first statement of a text is run. A statement that is
no query has a result without columns; one that fails leaves the database as it was.
-/

namespace RowCheck.Sql

/-- The table of a query that asks for nothing but all of it. -/
def Query.wholeTable? (q : Query) : Option Target :=
  match q.compound with
  | ⟨.select false [.all] [⟨.table target none, _, none⟩] none [] none, [], [], none, none⟩ =>
    some target
  | _ => none

/-- All of a table; the column that holds the row numbers is one of whole numbers. -/
def Table.whole (t : Table) : Relation where
  columns := t.columns.zipIdx.map fun (c, i) =>
    ⟨c.name, if t.key? = some i then some "INTEGER" else c.declared?, some c.affinity⟩
  rows := t.rows.map StoredRow.values

/-- The type with which a column is declared that is made for the values of a query. -/
def derivedType? : Affinity → Option String
  | .blob => none
  | .text => some "TEXT"
  | .numeric => some "NUM"
  | .integer => some "INT"
  | .real => some "REAL"

/-- A table without rows that has the columns of a query. -/
def Bound.table (q : Bound) (name : String) : Table where
  name := name
  columns :=
    let labels := ScopeSource.uniqueLabels (q.retrieval.first.outputs.map Output.label)
    ((ScopeSource.ofQuery 0 "" q).columns.zip labels).map fun (c, label) =>
      ⟨label, derivedType? (c.ref.affinity?.getD .blob), false, .null⟩
  key? := none
  rows := []

namespace Database

/-- What a query gives. -/
def query (db : Database) (sql : String) (q : Query) : Except Error (Action Relation) :=
  match q.wholeTable? with
  | some target => do
    let (_, t) ← db.locate target
    return fun () => .ok t.whole
  | none => do
    let bound ← db.bind sql q
    let ready ← bound.prepare db sql .stream
    return fun () => do return ⟨bound.columns, ← (ready.rows (.start db)).toList⟩

/-- Makes a table with the rows of a query. -/
def createTableAs (db : Database) (sql : String) (temporary ifNotExists : Bool) (target : Target)
    (q : Query) : Except Error (Action Database) := do
  match ← db.newTableSchema sql temporary ifNotExists target with
  | none => return fun () => .ok db
  | some schema =>
    let bound ← db.bind sql q
    let ready ← bound.prepare db sql .stream
    return fun () => do
      let add (t : Table) (values : Values) : Except Error (Table × Bool) := do
        return (← t.addRow .null values, false)
      let t ← (ready.rows (.start db)).fold add (bound.table target.table.text)
      return db.changeSchema schema fun ts => ts ++ [t]

/-- Looks at a statement as a whole: what it does when it runs, which is to return rows, and the
database after it. -/
def prepare (db : Database) (sql : String) :
    Statement → Except Error (Action (Relation × Database))
  | .nothing => .error (.failed .misuse "not an error")
  | .query q => do
    let rows ← db.query sql q
    return fun () => do return (← rows (), db)
  | .insert target alias? columns? rows => silently (db.insert sql target alias? columns? rows)
  | .update target alias? changes filter? =>
    silently (db.update sql target alias? changes filter?)
  | .delete target alias? filter? => silently (db.delete sql target alias? filter?)
  | .createTable temporary ifNotExists target clauses fault? =>
    silently (beforehand (db.createTable sql temporary ifNotExists target clauses fault?))
  | .createTableAs temporary ifNotExists target q =>
    silently (db.createTableAs sql temporary ifNotExists target q)
  | .dropTable ifExists target => silently (beforehand (db.dropTable ifExists target))
  | .attach name => silently (.ok fun () => db.attach name)
  | .begin => silently (.ok fun () => db.begin)
  | .commit => silently (.ok fun () => db.commit)
  | .rollback => silently (.ok fun () => db.rollback)
where
  /-- A statement that returns no rows. -/
  silently (action : Except Error (Action Database)) :
      Except Error (Action (Relation × Database)) := do
    let action ← action
    return fun () => do return (⟨[], []⟩, ← action ())
  /-- What is known before a statement runs. -/
  beforehand (db : Except Error Database) : Except Error (Action Database) := do
    let db ← db
    return fun () => .ok db

/-- Runs a statement: the rows that it returns, and the database after it. -/
def runStatement (db : Database) (sql : String) (statement : Statement) :
    Except Error (Relation × Database) := do
  (← db.prepare sql statement) ()

/-- Prepares and runs the first statement of a text, which is given no parameters. -/
def run (db : Database) (sql : String) : Except Error (Relation × Database) :=
  match parse sql with
  | .error fault => .error (fault.error sql)
  | .ok statement => do
    let action ← db.prepare sql statement
    match parameterCount sql with
    | 0 => action ()
    | n + 1 => .error (.parameterCount 0 (n + 1))

/-- The type that is reported for a column. -/
def reportedType (c : RelationColumn) : ColumnType :=
  c.declared?.elim (.unknown "") fun type => .ofDeclared type.toList

/-- A value as a cell. A text must be UTF-8. -/
def cell : Value → Except Failure Cell
  | .null => .ok .null
  | .int i => .ok (.int i)
  | .real x => .ok (.float x)
  | .blob bytes => .ok (.binary bytes)
  | .text bytes =>
    match Text.Utf8.toString bytes with
    | .ok s => .ok (.text s)
    | .error fault => .error (.ofPanic (.text s!"invalid UTF-8: {fault.record}"))

/-- A relation as the result of a query. -/
def results (r : Relation) : Except Failure Results := do
  let rows ← r.rows.mapM fun row => row.mapM cell
  return ⟨r.columns.map fun c => ⟨c.label, reportedType c⟩, rows⟩

/-- Runs the first statement of a text: its result, and the database after it. -/
def execute (db : Database) (sql : String) : Except Failure Results × Database :=
  match db.run sql with
  | .error e => (.error (.error (.engine e)), db)
  | .ok (r, db) => (results r, db)

end Database

end RowCheck.Sql
