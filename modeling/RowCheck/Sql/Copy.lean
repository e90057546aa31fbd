import RowCheck.Sql.Engine
import RowCheck.Sql.Identifier

/-!
# Copying a result into a table

A copy of a result is a new table with the same labels, whose columns are declared by the
affinities of the types, and with the same rows. The statements for it are built with all names in
quotes; what they do is then known without reading them again, unless a NUL in a name cuts them
short. Rows are added in one transaction: on an error the new table stays empty.
-/

namespace RowCheck.Sql

/-- The statement that attaches a schema. -/
def attachText (schema : String) : String :=
  "ATTACH DATABASE ':memory:' AS " ++ Identifier.quoted schema ++ ";"

/-- A table with its schema, both in quotes. -/
def targetText (schema table : String) : String :=
  Identifier.quoted schema ++ "." ++ Identifier.quoted table

/-- The statement that reads a whole table. -/
def selectText (schema table : String) : String := "SELECT * FROM " ++ targetText schema table

/-- A column with its declaration. -/
def columnText (c : Column) : String := Identifier.quoted c.label ++ " " ++ c.type.affinity.name

/-- The statement that makes a table for some columns. -/
def createText (schema table : String) (columns : List Column) : String :=
  "CREATE TABLE " ++ targetText schema table ++ " ("
    ++ ", ".intercalate (columns.map columnText) ++ ");"

/-- A quoted name at a place of a statement. -/
def nameAt (name : String) (offset : Nat) : Name := ⟨name, Identifier.quoted name, true, offset⟩

/-- The definition of the copy of a column. -/
def copiedColumn (c : Column) : TableClause := .column c.label (some c.type.affinity.name)

/-- What stands for a cell in a table. -/
def storedCell : Cell → Value
  | .null => .null
  | .int i => .int i
  | .float x => .ofReal x
  | .bool b => .ofBool b
  | .binary bytes => .blob bytes
  | c => .text (Text.Utf8.encode c.chars)

/-- Adds a row of cells, as many as there are columns. -/
def Table.addCells (t : Table) (row : List Cell) : Except Error Table :=
  let needed := t.columns.length
  if row.length = needed then t.addRow .null (row.map storedCell)
  else .error (.parameterCount (min row.length (needed + 1)) needed)

namespace Database

/-- Does what a statement with some names in it says; a NUL in a name would cut the statement short,
so that what it says has to be read from its text. -/
def perform (db : Database) (sql : String) (names : List String)
    (action : Except Error Database) : Except Error Database :=
  if names.any Text.hasNul then (db.run sql).map (·.2) else action

/-- Attaches a schema by its statement. -/
def attachSchema (db : Database) (schema : String) : Except Error Database :=
  db.perform (attachText schema) [schema] (db.attach schema)

/-- Makes the table of a copy. A table needs a column: without one, the statement goes wrong at its
closing parenthesis. -/
def createCopy (db : Database) (schema table : String) (columns : List Column) :
    Except Error Database :=
  let sql := createText schema table columns
  let schemaOffset := "CREATE TABLE ".length
  let tableOffset := schemaOffset + (Identifier.quoted schema).utf8ByteSize + 1
  let closing : Token :=
    ⟨.sign, [')'], [], tableOffset + (Identifier.quoted table).utf8ByteSize + 2⟩
  db.perform sql (schema :: table :: columns.map Column.label)
    (db.createTable sql false false ⟨some (nameAt schema schemaOffset), nameAt table tableOffset⟩
      (columns.map copiedColumn) (if columns.isEmpty then some (.unexpected closing) else none))

/-- Adds the rows of a copy in one transaction. -/
def fillCopy (db : Database) (schema table : String) (rows : List (List Cell)) :
    Except Error Database := do
  let db ← db.begin
  let (schema, t) ← db.locate ⟨some (nameAt schema 0), nameAt table 0⟩
  let t ← rows.foldlM Table.addCells t
  (db.putTable schema t).commit

/-- Copies a result into a new table. On an error the table is not there, or has no rows. -/
def load (db : Database) (schema table : String) (r : Results) : Except Error Unit × Database :=
  match db.createCopy schema table r.columns with
  | .error e => (.error e, db)
  | .ok made =>
    match made.fillCopy schema table r.rows with
    | .error e => (.error e, made)
    | .ok filled => (.ok (), filled)

end Database

end RowCheck.Sql
