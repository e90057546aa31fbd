import RowCheck.Sql.Database

/-!
# Defining tables

How a table comes into being and goes away. The name of a new table is looked at first, then its
clauses one by one, and last what is wrong with the form of the statement behind them.
-/

namespace RowCheck.Sql

/-- The error that tells what is wrong with the form of a statement. -/
def SyntaxFault.error (sql : String) : SyntaxFault → Error
  | .unexpected token => .atOffset s!"near \"{token.written}\": syntax error" sql token.offset
  | .incomplete => .failed .error "incomplete input"
  | .unrecognized token =>
    .atOffset s!"unrecognized token: \"{token.written}\"" sql token.offset
  | .separator text => .failed .error s!"unrecognized token: \"{text}\""
  | .joinRequired => .failed .error "a JOIN clause is required before ON"
  | .tooDeep => .failed .error s!"Expression tree is too large (maximum depth {maxDepth})"
  | .tooManyArguments fn =>
    .atOffset s!"too many arguments on function {fn.written}" sql fn.offset
  | .unevenRows => .failed .error "all VALUES must have the same number of terms"
  | .tooManyMembers => .failed .error "too many terms in compound SELECT"
  | .misplaced clause op =>
    .failed .error s!"{clause} clause should come after {op.keyword} not before"
  | .unknownOption token => .failed .error s!"unknown table option: {token.written}"

/-- A table as the error of its absence names it. -/
def Target.shown (t : Target) : String :=
  (t.schema?.elim "" fun s => s.text ++ ".") ++ t.table.text

/-- The error that a table is not there. -/
def noSuchTable (t : Target) : Error := .failed .error s!"no such table: {t.shown}"

/-- How names begin that are kept for the engine itself. -/
def reservedStart : List Char := "sqlite_".toList

/-- The greatest number of columns of a table. -/
def maxColumns : Nat := 2000

/-- A table while its definition is looked at. -/
structure Draft where
  columns : List TableColumn
  hasPrimaryKey : Bool
  key? : Option Nat
  /-- Whether no row number is ever given again. -/
  keepsNumbers : Bool
  indexes : List Index

namespace Draft

/-- A table without columns. -/
def empty : Draft := ⟨[], false, none, false, []⟩

/-- The place of the last column. -/
def last (d : Draft) : Nat := d.columns.length - 1

/-- Changes the last column. -/
def changeLast (d : Draft) (f : TableColumn → TableColumn) : Draft :=
  { d with columns := d.columns.modify d.last f }

/-- The place of the column of a name. -/
def find? (d : Draft) (name : String) : Option Nat := d.columns.findIdx? (sameName ·.name name)

/-- The column that stands in a key. -/
def keyColumn (d : Draft) (sql : String) : KeyPart → Except Error Nat
  | .column n =>
    match d.find? n.text with
    | some i => .ok i
    | none =>
      if n.doubleQuoted then prohibited
      else .error (.atOffset s!"no such column: {n.text}" sql n.offset)
  | .path first =>
    .error (.atOffset "the \".\" operator prohibited in index expressions" sql first.offset)
  | .other => prohibited
where
  prohibited {α : Type} : Except Error α :=
    .error (.failed .error "expressions prohibited in PRIMARY KEY and UNIQUE constraints")

/-- A table with one more index. If there is one on the same columns, it serves for both. -/
def addIndex (d : Draft) (index : Index) : Draft :=
  let isSame (i : Index) : Bool := i.columns.map (·.1) == index.columns.map (·.1)
  match d.indexes.findIdx? isSame with
  | some place =>
    if index.code = .primaryKey then
      { d with indexes := d.indexes.modify place fun i => { i with code := .primaryKey } }
    else d
  | none => { d with indexes := index :: d.indexes }

/-- A table with one more index on a key. -/
def addKey (d : Draft) (sql : String) (code : ResultCode) (key : List KeyColumn) :
    Except Error Draft := do
  let columns ← key.mapM fun k => return (← d.keyColumn sql k.part, k.descending)
  return d.addIndex ⟨columns, code⟩

/-- Whether a column is declared so that it can hold the row numbers. -/
def isInteger (d : Draft) (i : Nat) : Bool :=
  ((d.columns[i]?).bind TableColumn.declared?).any (sameName · "INTEGER")

/-- The column that a primary key makes the one of the row numbers. -/
def numbered? (d : Draft) (descending : Bool) : Option (List KeyColumn) → Option Nat
  | none => if d.isInteger d.last && !descending then some d.last else none
  | some [⟨.column n, _⟩] => (d.find? n.text).filter d.isInteger
  | some _ => none

/-- A table with a primary key. -/
def addPrimaryKey (d : Draft) (sql table : String) (key? : Option (List KeyColumn))
    (descending autoincrement : Bool) : Except Error Draft :=
  if d.hasPrimaryKey then
    .error (.failed .error s!"table \"{table}\" has more than one primary key")
  else
    let d := { d with hasPrimaryKey := true }
    match d.numbered? descending key? with
    | some i => .ok { d with key? := some i, keepsNumbers := autoincrement }
    | none =>
      if autoincrement then
        .error (.failed .error "AUTOINCREMENT is only allowed on an INTEGER PRIMARY KEY")
      else
        match key? with
        | none => .ok (d.addIndex ⟨[(d.last, descending)], .primaryKey⟩)
        | some key => d.addKey sql .primaryKey key

/-- A table with one more clause of its definition. -/
def add (sql table : String) (d : Draft) : TableClause → Except Error Draft
  | .column name declared? =>
    if maxColumns ≤ d.columns.length then .error (.failed .error s!"too many columns on {table}")
    else if (d.find? name).isSome then .error (.failed .error s!"duplicate column name: {name}")
    else .ok { d with columns := d.columns ++ [⟨name, declared?, false, .null⟩] }
  | .notNull => .ok (d.changeLast fun c => { c with notNull := true })
  | .default v => .ok (d.changeLast fun c => { c with default := v })
  | .primaryKey key? descending autoincrement =>
    d.addPrimaryKey sql table key? descending autoincrement
  | .unique none => .ok (d.addIndex ⟨[(d.last, false)], .unique⟩)
  | .unique (some key) => d.addKey sql .unique key

/-- The table without rows that is defined. -/
def table (d : Draft) (name : String) : Table where
  name := name
  columns := d.columns
  key? := d.key?
  lastNumber? := if d.keepsNumbers then some 0 else none
  indexes := d.indexes
  rows := []

end Draft

namespace Database

/-- The schema in which a new table is made. -/
def schemaFor (db : Database) (sql : String) (temporary : Bool) (target : Target) :
    Except Error String :=
  match target.schema? with
  | none => .ok (if temporary then "temp" else "main")
  | some name =>
    match db.schema? name.text with
    | none => .error (.atOffset s!"unknown database {name.written}" sql name.offset)
    | some s =>
      if temporary && !sameName s.name "temp" then
        .error (.failed .error "temporary table name must be unqualified")
      else .ok s.name

/-- The schema in which a new table is made; none if a table of its name is there and may be. -/
def newTableSchema (db : Database) (sql : String) (temporary ifNotExists : Bool)
    (target : Target) : Except Error (Option String) := do
  let schema ← db.schemaFor sql temporary target
  let name := target.table.text
  if reservedStart.isPrefixOf (Token.lower name.toList) then
    throw (.failed .error s!"object name reserved for internal use: {name}")
  if ((db.schema? schema).bind (·.table? name)).isSome then
    if ifNotExists then return none
    else throw (.atOffset s!"table {target.table.written} already exists" sql target.table.offset)
  return some schema

/-- Makes a table. A fault is one that follows its clauses in the statement. -/
def createTable (db : Database) (sql : String) (temporary ifNotExists : Bool) (target : Target)
    (clauses : List TableClause) (fault? : Option SyntaxFault) : Except Error Database := do
  let schema? ← db.newTableSchema sql temporary ifNotExists target
  let name := target.table.text
  let draft ← if schema?.isNone then pure .empty else clauses.foldlM (Draft.add sql name) .empty
  if let some fault := fault? then throw (fault.error sql)
  match schema? with
  | none => return db
  | some schema => return db.changeSchema schema fun ts => ts ++ [draft.table name]

/-- Drops a table. -/
def dropTable (db : Database) (ifExists : Bool) (target : Target) : Except Error Database :=
  match db.find? target with
  | some (schema, t) =>
    .ok (db.changeSchema schema fun ts => ts.filter fun u => !sameName u.name t.name)
  | none => if ifExists then .ok db else .error (noSuchTable target)

end Database

end RowCheck.Sql
