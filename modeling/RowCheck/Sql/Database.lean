import RowCheck.Sql.Operation

/-!
# Databases in memory

Schemas of tables, with the rows of each table in the order of their row numbers. Storing a row
applies the affinities of the columns and checks the constraints of the table.
-/

namespace RowCheck.Sql

/-- A column of a table. -/
structure TableColumn where
  name : String
  /-- The type as it is declared, if it is. -/
  declared? : Option String
  notNull : Bool
  default : Value
  deriving DecidableEq

/-- The affinity of a column; without a type, values are stored as they are. -/
def TableColumn.affinity (c : TableColumn) : Affinity :=
  match c.declared? with
  | some type => .ofDeclared type.toList
  | none => .blob

/-- A row of a table, under its number. -/
structure StoredRow where
  number : Int
  values : List Value
  deriving DecidableEq

/-- Columns whose values must not be repeated together. -/
structure Index where
  /-- The columns, each with whether its values are kept downwards. -/
  columns : List (Nat × Bool)
  /-- What the error of repeated values is. -/
  code : ResultCode
  deriving DecidableEq

/-- A table. -/
structure Table where
  name : String
  columns : List TableColumn
  /-- The column that holds the row numbers, if there is one. -/
  key? : Option Nat
  /-- The greatest row number that was ever given, where no number is given twice. -/
  lastNumber? : Option Int := none
  /-- What must not be repeated. The constraints that come last in the definition of the table are
  first here, and are checked first. -/
  indexes : List Index := []
  /-- The rows, by ascending number. -/
  rows : List StoredRow
  deriving DecidableEq

/-- A schema. -/
structure Schema where
  name : String
  tables : List Table
  deriving DecidableEq

/-- A database: its schemas, those for temporary and permanent tables first, and the state to which
an open transaction goes back. -/
structure Database where
  schemas : List Schema
  saved? : Option (List Schema)
  deriving DecidableEq

/-- Whether two names are the same; ASCII letter case does not count. -/
def sameName (a b : String) : Bool := Token.lower a.toList == Token.lower b.toList

namespace Table

/-- The column that a name names. -/
def columnIndex? (t : Table) (name : String) : Option Nat :=
  t.columns.findIdx? fun c => sameName c.name name

/-- A column as a part of a row: none is the number of the row. -/
def slotOf (t : Table) (i : Nat) : Option Nat := if t.key? = some i then none else some i

/-- The greatest row number. -/
def maxNumber : Int := 0x8000000000000000 - 1

/-- The first number of a table in which the greatest one is taken. -/
def firstFree : Int → List StoredRow → Int
  | n, [] => n
  | n, r :: rs => if r.number = n then firstFree (n + 1) rs else firstFree n rs

/-- The number that a new row gets by itself: the one after the greatest number. -/
def nextNumber (t : Table) : Except Error Int :=
  let free : Int := (t.rows.getLast?.map (·.number + 1)).getD 1
  match t.lastNumber? with
  | none => .ok (if maxNumber < free then firstFree 1 t.rows else free)
  | some n =>
    if maxNumber ≤ n ∨ maxNumber < free then .error (.failed .full "database or disk is full")
    else .ok (max free (n + 1))

/-- Puts a row among rows by its number. -/
def insertRow (row : StoredRow) : List StoredRow → List StoredRow
  | [] => [row]
  | r :: rs => if row.number < r.number then row :: r :: rs else r :: insertRow row rs

/-- The error of a constraint on some columns. -/
def violation (t : Table) (code : ResultCode) (kind : String) (columns : List String) : Error :=
  let shown := ", ".intercalate (columns.map fun c => s!"{t.name}.{c}")
  .failed code s!"{kind} constraint failed: {shown}"

/-- The error of a row number that is no whole number. -/
def mismatch : Error := .failed .mismatch "datatype mismatch"

/-- The number that a value gives to a row; `absent` is what there is without a value. -/
def numberOf (absent : Except Error Int) (v : Value) : Except Error Int :=
  match v.store .integer with
  | .null => absent
  | .int i => .ok i.toInt
  | _ => .error mismatch

/-- The row of a number with values as the columns store them. -/
def prepareRow (t : Table) (number : Int) (values : Values) : Except Error StoredRow := do
  let values := t.columns.zipWith (fun c v => v.store c.affinity) values
  for (c, i) in t.columns.zipIdx do
    if c.notNull ∧ t.key? ≠ some i ∧ values[i]? = some .null then
      throw (t.violation .notNull "NOT NULL" [c.name])
  match t.key? with
  | none => return ⟨number, values⟩
  | some k => return ⟨number, values.set k (.int (.ofInt number))⟩

/-- Checks that a row does not repeat what may be there only once. -/
def checkUnique (t : Table) (row : StoredRow) : Except Error Unit := do
  if t.rows.any fun r => r.number = row.number then
    match t.key?.bind fun k => t.columns[k]? with
    | some c => throw (t.violation .primaryKey "UNIQUE" [c.name])
    | none => throw (t.violation .rowNumber "UNIQUE" ["rowid"])
  for index in t.indexes do
    let columns := index.columns.map (·.1)
    let has (i : Nat) (r : StoredRow) : Bool :=
      (r.values.getD i .null).order (row.values.getD i .null) = .eq
    if columns.all (fun i => row.values.getD i .null ≠ .null)
        ∧ t.rows.any fun r => columns.all fun i => has i r then
      throw (t.violation index.code "UNIQUE"
        (columns.map fun i => (t.columns[i]?).elim "" TableColumn.name))

/-- Stores one more row; if no number is given, it is the next one. -/
def addRow (t : Table) (number : Value) (values : Values) : Except Error Table := do
  let row ← t.prepareRow (← numberOf t.nextNumber number) values
  t.checkUnique row
  return { t with
    rows := insertRow row t.rows
    lastNumber? := t.lastNumber?.map fun n => max n row.number }

/-- Puts a row of another number and other values in the place of a row. -/
def changeRow (t : Table) (old new : Int) (values : Values) : Except Error Table := do
  let row ← t.prepareRow new values
  let rest := { t with rows := t.rows.filter (·.number ≠ old) }
  rest.checkUnique row
  return { t with rows := insertRow row rest.rows }

end Table

namespace Schema

/-- The table of a name. -/
def table? (s : Schema) (name : String) : Option Table :=
  s.tables.find? fun t => sameName t.name name

end Schema

namespace Database

/-- A database without tables. -/
def empty : Database := ⟨[⟨"main", []⟩, ⟨"temp", []⟩], none⟩

/-- The schema of a name. -/
def schema? (db : Database) (name : String) : Option Schema :=
  db.schemas.find? fun s => sameName s.name name

/-- The order in which schemas are searched: temporary tables come first. -/
def searched (db : Database) : List Schema :=
  let (temporary, permanent) := db.schemas.partition fun s => sameName s.name "temp"
  temporary ++ permanent

/-- A table, and the name of the schema that has it. -/
def find? (db : Database) (target : Target) : Option (String × Table) :=
  let candidates : List Schema :=
    match target.schema? with
    | some schema => db.schemas.filter fun s => sameName s.name schema.text
    | none => db.searched
  candidates.findSome? fun s => (s.table? target.table.text).map fun t => (s.name, t)

/-- Changes the tables of a schema. -/
def changeSchema (db : Database) (schema : String) (f : List Table → List Table) : Database :=
  { db with
    schemas := db.schemas.map fun s =>
      if sameName s.name schema then { s with tables := f s.tables } else s }

/-- Puts a table in the place of the one of its name. -/
def putTable (db : Database) (schema : String) (t : Table) : Database :=
  db.changeSchema schema fun ts => ts.map fun u => if sameName u.name t.name then t else u

/-- The greatest number of attached schemas. -/
def maxAttached : Nat := 10

/-- Attaches one more schema, without tables. -/
def attach (db : Database) (name : String) : Except Error Database :=
  if maxAttached + 2 ≤ db.schemas.length then
    .error (.failed .error s!"too many attached databases - max {maxAttached}")
  else if (db.schema? name).isSome then
    .error (.failed .error s!"database {name} is already in use")
  else .ok { db with schemas := db.schemas ++ [⟨name, []⟩] }

/-- Opens a transaction. -/
def begin (db : Database) : Except Error Database :=
  match db.saved? with
  | some _ => .error (.failed .error "cannot start a transaction within a transaction")
  | none => .ok { db with saved? := some db.schemas }

/-- Ends a transaction and keeps its changes. -/
def commit (db : Database) : Except Error Database :=
  match db.saved? with
  | none => .error (.failed .error "cannot commit - no transaction is active")
  | some _ => .ok { db with saved? := none }

/-- Ends a transaction and drops its changes. Schemas attached since then stay, without tables. -/
def rollback (db : Database) : Except Error Database :=
  match db.saved? with
  | none => .error (.failed .error "cannot rollback - no transaction is active")
  | some saved =>
    .ok ⟨saved ++ (db.schemas.drop saved.length).map fun s => ⟨s.name, []⟩, none⟩

end Database

end RowCheck.Sql
