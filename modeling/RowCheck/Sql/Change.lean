import RowCheck.Sql.Binding
import RowCheck.Sql.Preparation

/-!
# Changing rows

Inserting, updating and deleting rows. Statements are looked at as a whole before they run; one that
fails half-way changes nothing, since it is the changed database that is returned or none.
-/

namespace RowCheck.Sql

/-- What a column holds that a statement names; none stands for the number of a row. -/
abbrev Slot := Option Nat

namespace Table

/-- The slot that a name names. -/
def slot? (t : Table) (name : String) : Option Slot :=
  match t.columnIndex? name with
  | some i => some (t.slotOf i)
  | none => if isRowNumber name then some none else none

/-- Stores a row with values for some slots; the others have their defaults. Of several values for a
column the first one counts, of several row numbers the last one. -/
def addValues (t : Table) (slots : List Slot) (values : Values) : Except Error Table :=
  let given := slots.zip values
  let number := ((given.reverse.find? fun (s, _) => s.isNone).map (·.2)).getD .null
  t.addRow number (t.columns.zipIdx.map fun (c, i) =>
    ((given.find? fun (s, _) => s == some i).map (·.2)).getD c.default)

end Table

/-- What a statement does when it runs. -/
abbrev Action (α : Type) := Unit → Except Error α

/-- What a statement about one table says: how its slots change, and on what condition. -/
structure Clauses where
  /-- The number of the table. -/
  number : Nat
  changes : List (Slot × Formula Bound)
  conditions : List (Formula Bound)
  used : List Nat

namespace Clauses

/-- A table of which rows are to be changed, as a source. -/
def source (c : Clauses) (db : Database) (schema : String) (t : Table) : ReadySource :=
  ⟨⟨c.number, some t, Estimate.tableRows, false, c.used, false⟩,
    fun env => .ofList (env.database.rowsOf schema t.name), true, db⟩

/-- The way to go through the rows of a table for which conditions hold. -/
def code (c : Clauses) (s : Setting) (schema : String) (t : Table) : Coding Scan :=
  let aim : Aim := ⟨[], .sorting, none, false, false, none, 0, 0, true⟩
  Scan.make (Preparation.code maxNesting) s [c.source s.database schema t]
    c.conditions aim

/-- The last formula for each slot. -/
def lastChanges (c : Clauses) (t : Table) : List (Slot × Formula Bound) :=
  (none :: (List.range t.columns.length).map some).filterMap fun slot =>
    (c.changes.reverse.find? (·.1 == slot)).map fun (_, f) => (slot, f)

/-- Whether rows are changed while they are looked for, which is so unless that could change what is
found. -/
def changesAtOnce (c : Clauses) (t : Table) (plan : Plan) : Bool :=
  let isChanged (slot : Slot) : Bool := c.changes.any (·.1 == slot)
  match plan.loops with
  | [l] =>
    l.isSingle
      || (!isChanged none && !c.conditions.any Formula.hasQuery
        && (match l.route with
          | .index index => !index.columns.any fun (i, _) => isChanged (t.slotOf i)
          | _ => true))
  | _ => false

end Clauses

namespace Database

/-- The slots that an insertion names; all columns if it names none. The table is `shown` in errors.
-/
def insertedSlots (shown : String) (t : Table) :
    Option (List String) → Except Error (List Slot)
  | none => .ok ((List.range t.columns.length).map t.slotOf)
  | some names =>
    names.mapM fun n =>
      match t.slot? n with
      | some slot => .ok slot
      | none => .error (.failed .error s!"table {shown} has no column named {n}")

/-- Checks that an insertion has a value for each column. -/
def checkWidth (shown : String) (t : Table) (columns? : Option (List String)) (width : Nat) :
    Except Error Unit :=
  match columns? with
  | none =>
    if t.columns.length = width then .ok ()
    else
      .error (.failed .error
        s!"table {shown} has {t.columns.length} columns but {width} values were supplied")
  | some names =>
    if names.length = width then .ok ()
    else .error (.failed .error s!"{width} values for {names.length} columns")

/-- The formula of an expression in a statement that is no query. -/
def formula (s : Scope) (e : Expr Query) : Resolve (Formula Bound) :=
  s.resolve Binding.lateQuery (Expansion.width s.database) e

/-- The only row of values that an insertion gives, if it gives one. -/
def singleRow? (q : Query) : Option (List (Expr Query)) :=
  match q.compound with
  | ⟨.values [row], [], [], none, none⟩ => some row
  | _ => none

/-- Adds rows as they come. -/
def addRows (db : Database) (schema : String) (t : Table) (slots : List Slot) (rows : Rows Values) :
    Except Error Database := do
  let t ← rows.fold (fun t values => do return (← t.addValues slots values, false)) t
  return db.putTable schema t

/-- Inserts a single row of values. -/
def insertRow (db : Database) (sql schema : String) (t : Table) (slots : List Slot)
    (check : Nat → Except Error Unit) (row : List (Expr Query)) :
    Except Error (Action Database) := do
  let scope : Scope := ⟨sql, db, [], 0, true⟩
  let (formulas, _) ← (row.mapM (formula scope)).run Resolve.initial
  check row.length
  let ready ← (Formula.codeAll (Preparation.code maxNesting) ⟨sql, db, [], 0⟩ formulas).finish
  return fun () => do
    db.addRows schema t slots (.single (← Formula.evalAll (.start db) ready))

/-- Inserts the rows of a query. They are all there before the first one is stored if the query
reads the table. -/
def insertQuery (db : Database) (sql schema : String) (t : Table) (slots : List Slot)
    (check : Nat → Except Error Unit) (q : Query) : Except Error (Action Database) := do
  let bound ← db.bind sql q
  let inOrder := slots == (List.range slots.length).map t.slotOf
  let ready ← bound.prepare db sql (if inOrder then .collected else .stream)
  check bound.width
  return fun () => do
    let rows := ready.rows (.start db)
    if (bound.tables maxNesting).contains (schema, t.name) then
      db.addRows schema t slots (.ofList (← rows.toList))
    else db.addRows schema t slots rows

/-- Inserts rows. -/
def insert (db : Database) (sql : String) (target : Target) (alias? : Option String)
    (columns? : Option (List String)) (rows : Inserted) : Except Error (Action Database) := do
  let (schema, t) ← db.locate target
  let shown := alias?.getD target.shown
  let slots ← insertedSlots shown t columns?
  let check := checkWidth shown t columns?
  match rows with
  | .defaults =>
    if columns?.isSome then check 0
    return fun () => db.addRows schema t [] (.single [])
  | .rows q =>
    match singleRow? q with
    | some row => db.insertRow sql schema t slots check row
    | none => db.insertQuery sql schema t slots check q

/-- Resolves the names in a statement about one table. -/
def clauses (db : Database) (sql schema : String) (t : Table) (alias? : Option String)
    (changed : List (Name × Expr Query)) (filter? : Option (Expr Query)) :
    Except Error Clauses := do
  let resolved : Resolve (Nat × List (Slot × Formula Bound) × List (Formula Bound)) := do
    let block ← Resolve.fresh
    let number ← Resolve.fresh
    let source := ScopeSource.ofTable number (alias?.getD t.name) schema t
    let scope : Scope := ⟨sql, db, [⟨block, [source], [], false, false⟩], 0, true⟩
    let changes ← changed.mapM fun (n, e) => do
      let f ← formula scope e
      match t.slot? n.text with
      | some slot => return (slot, f)
      | none => throw (.failed .error s!"no such column: {n.text}")
    let filter? ← filter?.mapM (formula scope)
    return (number, changes, filter?.toList.flatMap Formula.conjuncts)
  let ((number, changes, conditions), r) ← resolved.run Resolve.initial
  return ⟨number, changes, conditions,
    r.uses.filterMap fun (source, i) => if source = number then some i else none⟩

/-- Changes one row. -/
def changeRow (db : Database) (schema table : String) (number : Nat)
    (changes : List (Slot × Formula Ready)) (row : StoredRow) : Except Error Database := do
  let env := (Env.start db).move number row
  match (db.schema? schema).bind (·.table? table) with
  | none => return db
  | some t =>
    let (n, values) ← changes.foldlM (fun (n, values) (slot, f) => do
      let v ← f.eval env
      match slot with
      | none => return (← Table.numberOf (.error Table.mismatch) v, values)
      | some i => return (n, values.set i v)) (row.number, row.values)
    return db.putTable schema (← t.changeRow row.number n values)

/-- Updates rows. -/
def update (db : Database) (sql : String) (target : Target) (alias? : Option String)
    (changed : List (Name × Expr Query)) (filter? : Option (Expr Query)) :
    Except Error (Action Database) := do
  let (schema, t) ← db.locate target
  let c ← db.clauses sql schema t alias? changed filter?
  let s : Setting := ⟨sql, db, [], 0⟩
  let coded : Coding (Scan × List (Slot × Formula Ready)) := do
    let scan ← c.code s schema t
    let inside := if c.changesAtOnce t scan.plan then { s with repeated := scan.plan.rows } else s
    let changes ← (c.lastChanges t).mapM fun (slot, f) => do
      return (slot, ← f.code (Preparation.code maxNesting) inside)
    return (scan, changes)
  let (scan, changes) ← coded.finish
  return fun () => do
    let rows : Rows StoredRow := (scan.rows (.start db)).filterMap fun env =>
      .ok (env.rows.lookup c.number)
    let change (db : Database) (row : StoredRow) : Except Error (Database × Bool) := do
      return (← db.changeRow schema t.name c.number changes row, false)
    if c.changesAtOnce t scan.plan then rows.fold change db
    else
      let all ← rows.toList
      (Rows.ofList (all.mergeSort fun a b => a.number ≤ b.number)).fold change db

/-- Deletes rows. -/
def delete (db : Database) (sql : String) (target : Target) (alias? : Option String)
    (filter? : Option (Expr Query)) : Except Error (Action Database) := do
  let (schema, t) ← db.locate target
  let c ← db.clauses sql schema t alias? [] filter?
  let scan ← (c.code ⟨sql, db, [], 0⟩ schema t).finish
  return fun () => do
    let found ← ((scan.rows (.start db)).filterMap fun env =>
      .ok ((env.rows.lookup c.number).map StoredRow.number)).toList
    return db.putTable schema { t with rows := t.rows.filter fun r => !found.contains r.number }

end Database

end RowCheck.Sql
