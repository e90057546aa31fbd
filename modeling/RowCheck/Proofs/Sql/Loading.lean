import RowCheck.Proofs.Sql.CopyTable

/-!
# Loading a result into a table

A copy is made in two steps: a table for its columns, and its rows in one transaction. Each of them
succeeds under conditions that can be told beforehand, `Database.load_eq_ok_iff`. A database that
holds nothing but copies has one more table then, behind the others.
-/

namespace RowCheck.Sql

/-! ## Names -/

theorem sameName_self (a : String) : sameName a a = true := beq_self_eq_true _

theorem sameName_congr {a b : String} (same : sameName a b = true) (x : String) :
    sameName x a = sameName x b := by
  have lower : Token.lower a.toList = Token.lower b.toList := eq_of_beq same
  rw [sameName, sameName, lower]

namespace Database

variable {db : Database} {schema table : String} {s : Schema}

theorem sameName_of_schema? (found : db.schema? schema = some s) : sameName s.name schema = true :=
  List.find?_some (p := fun s : Schema => sameName s.name schema) found

/-- A schema that is found by a name is found by its own name. -/
theorem schema?_name (found : db.schema? schema = some s) : db.schema? s.name = some s := by
  have same := sameName_congr (sameName_of_schema? found)
  simpa only [schema?, same] using found

theorem changeSchema_name (found : db.schema? schema = some s) (f : List Table → List Table) :
    db.changeSchema s.name f = db.changeSchema schema f := by
  have same := sameName_congr (sameName_of_schema? found)
  simp only [changeSchema, same]

theorem schema?_changeSchema (found : db.schema? schema = some s)
    (f : List Table → List Table) :
    (db.changeSchema schema f).schema? schema = some { s with tables := f s.tables } := by
  have names : ((fun s : Schema => sameName s.name schema) ∘ fun s =>
      if sameName s.name schema then { s with tables := f s.tables } else s)
        = fun s => sameName s.name schema := by
    funext s
    dsimp only [Function.comp]
    split <;> rfl
  rw [schema?] at found
  rw [changeSchema, schema?, List.find?_map, names, found, Option.map_some,
    if_pos (sameName_of_schema? found)]

/-- The table that the first schema of a name has is the one that is found. -/
theorem tableAt?_of_schema? (found : db.schema? schema = some s) {t : Table}
    (has : s.table? table = some t) : db.tableAt? schema table = some (s.name, t) := by
  rw [schema?, ← List.head?_filter] at found
  obtain ⟨rest, first⟩ := List.head?_eq_some_iff.mp found
  rw [tableAt?, first, List.findSome?_cons, has]
  rfl

end Database

namespace Database

variable {db made filled : Database} {schema table : String} {s : Schema} {columns : List Column}
  {rows : List (List Cell)}

/-! ## Tables -/

/-- A place where a table of a name can be made. -/
structure HasRoom (db : Database) (schema table : String) : Prop where
  free : ∃ s, db.schema? schema = some s ∧ s.table? table = none
  unreserved : reservedStart.isPrefixOf (Token.lower table.toList) = false

theorem newTableSchema_eq_ok_iff (sql : String) {n m : Name} {schema? : Option String} :
    db.newTableSchema sql false false ⟨some n, m⟩ = .ok schema? ↔
      db.HasRoom n.text m.text ∧ ∃ s, db.schema? n.text = some s ∧ schema? = some s.name := by
  cases found : db.schema? n.text with
  | none =>
    have refused : db.schemaFor sql false ⟨some n, m⟩
        = .error (.atOffset s!"unknown database {n.written}" sql n.offset) := by
      simp [schemaFor, found]
    constructor
    · intro h
      rw [newTableSchema, refused] at h
      cases h
    · rintro ⟨-, s, other, -⟩
      cases other
  | some s =>
    have place : db.schemaFor sql false ⟨some n, m⟩ = .ok s.name := by simp [schemaFor, found]
    have again := schema?_name found
    simp only [newTableSchema, place, ok_bind, again, Option.bind_some]
    constructor
    · intro h
      split at h
      · cases h
      next unreserved =>
      split at h
      · cases h
      next absent =>
      cases h
      exact ⟨⟨⟨s, found, by simpa using absent⟩, eq_false_of_ne_true unreserved⟩,
        s, rfl, rfl⟩
    · rintro ⟨⟨⟨_, found', absent⟩, unreserved⟩, _, ⟨⟩, rfl⟩
      rw [found] at found'
      cases found'
      rw [unreserved, absent]
      rfl

/-- A table is made for the copies of some columns if there is room for it, if its columns can be
declared and if nothing is wrong behind them. -/
theorem createTable_eq_ok_iff {sql : String} {n m : Name} {fault? : Option SyntaxFault} :
    db.createTable sql false false ⟨some n, m⟩ (columns.map copiedColumn) fault? = .ok made ↔
      db.HasRoom n.text m.text ∧ AreDeclarable columns ∧ fault? = none ∧
        made = db.changeSchema n.text fun ts => ts ++ [copyTable m.text columns []] := by
  rw [createTable, bind_eq_ok_iff]
  simp only [newTableSchema_eq_ok_iff]
  constructor
  · rintro ⟨_, ⟨room, s, found, rfl⟩, h⟩
    obtain ⟨d, draft, h⟩ := bind_eq_ok h
    obtain ⟨declarable, rfl⟩ := (defined_eq_ok_iff ..).mp draft
    cases fault? with
    | some fault => cases h
    | none =>
      cases h
      exact ⟨room, declarable, rfl, changeSchema_name found _⟩
  · rintro ⟨room, declarable, rfl, rfl⟩
    obtain ⟨s, found, -⟩ := room.free
    have draft := (defined_eq_ok_iff sql m.text).mpr ⟨declarable, rfl⟩
    refine ⟨some s.name, ⟨room, s, found, rfl⟩, ?_⟩
    rw [← changeSchema_name found]
    simp only [Option.isNone_some, Bool.false_eq_true, if_false, draft, ok_bind]
    rfl

/-- A fault behind the columns is reported if nothing is wrong before it. -/
theorem createTable_eq_error {sql : String} {n m : Name} (room : db.HasRoom n.text m.text)
    (declarable : AreDeclarable columns) (fault : SyntaxFault) :
    db.createTable sql false false ⟨some n, m⟩ (columns.map copiedColumn) (some fault)
      = .error (fault.error sql) := by
  obtain ⟨s, found, -⟩ := room.free
  have place := (newTableSchema_eq_ok_iff sql).mpr ⟨room, s, found, rfl⟩
  have draft := (defined_eq_ok_iff sql m.text).mpr ⟨declarable, rfl⟩
  rw [createTable, place, ok_bind]
  simp only [Option.isNone_some, Bool.false_eq_true, if_false, draft, ok_bind]
  rfl

/-- A copy needs clean names besides, and a column. -/
theorem createCopy_eq_ok_iff :
    db.createCopy schema table columns = .ok made ↔
      ((schema :: table :: columns.map Column.label).any Text.hasNul = false) ∧
        db.HasRoom schema table ∧ AreDeclarable columns ∧ columns ≠ [] ∧
        made = db.changeSchema schema fun ts => ts ++ [copyTable table columns []] := by
  unfold createCopy
  simp only [perform]
  split
  · next nul =>
    obtain ⟨e, failed⟩ := run_createText_nul db nul
    rw [failed, nul]
    constructor
    · intro h
      cases h
    · rintro ⟨clean, -⟩
      cases clean
  · next clean =>
    rw [Bool.not_eq_true] at clean
    rw [createTable_eq_ok_iff, and_iff_right clean]
    simp [nameAt]

/-! ## Rows -/

/-- The database with one more table in the schemas of a name. -/
def withTable (db : Database) (schema : String) (t : Table) : Database :=
  db.changeSchema schema fun ts => ts ++ [t]

theorem schema?_withTable (found : db.schema? schema = some s) (t : Table) :
    (db.withTable schema t).schema? schema = some { s with tables := s.tables ++ [t] } :=
  schema?_changeSchema found _

theorem table?_concat {t : Table} (absent : s.table? table = none) (named : t.name = table) :
    Schema.table? { s with tables := s.tables ++ [t] } table = some t := by
  rw [Schema.table?] at absent ⊢
  rw [List.find?_append, absent, Option.none_or, List.find?_cons, named, sameName_self]

/-- A table that is put in the place of one of its name is found there. -/
theorem tableAt?_putTable (found : db.schema? schema = some s) {t u : Table}
    (has : s.table? table = some t) (named : u.name = table) :
    (db.putTable schema u).tableAt? schema table = some (s.name, u) := by
  subst named
  have names : ((fun t : Table => sameName t.name u.name) ∘ fun t =>
      if sameName t.name u.name then u else t) = fun t => sameName t.name u.name := by
    funext t
    dsimp only [Function.comp]
    split
    · next same => rw [sameName_self, same]
    · rfl
  refine tableAt?_of_schema? (schema?_changeSchema found _) ?_
  rw [Schema.table?] at has ⊢
  rw [List.find?_map, names, has, Option.map_some,
    if_pos (List.find?_some (p := fun t : Table => sameName t.name u.name) has)]

/-- Rows are filled in where no transaction is open, if the table that is found takes them all. -/
theorem fillCopy_eq_ok_iff {name : String} {t : Table}
    (found : made.tableAt? schema table = some (name, t)) :
    made.fillCopy schema table rows = .ok filled ↔
      made.saved? = none ∧ ∃ full, rows.foldlM Table.addCells t = .ok full ∧
        filled = made.putTable name full := by
  obtain ⟨schemas, saved?⟩ := made
  cases saved? with
  | some saved =>
    constructor
    · intro h
      cases h
    · rintro ⟨none, -⟩
      cases none
  | none =>
    have located : Database.locate ⟨schemas, some schemas⟩ ⟨some (nameAt schema 0), nameAt table 0⟩
        = .ok (name, t) := locate_qualified _ rfl rfl found
    rw [fillCopy, begin, ok_bind, located, ok_bind]
    show (rows.foldlM Table.addCells t >>= fun full =>
      (Database.putTable ⟨schemas, some schemas⟩ name full).commit) = _ ↔ _
    rw [bind_eq_ok_iff, and_iff_right rfl]
    refine exists_congr fun full => and_congr_right fun _ => ?_
    have ended : (Database.putTable ⟨schemas, some schemas⟩ name full).commit
        = .ok (Database.putTable ⟨schemas, none⟩ name full) := rfl
    rw [ended, Except.ok.injEq, eq_comm]

/-! ## Loading -/

/-- What is asked of a result and of the place that it is loaded into: a schema that is there and
has no table of the name, names that are not cut short, columns that can stand in one table and
rows with a cell for each of them; and no transaction is open. -/
structure IsLoadable (db : Database) (schema table : String) (r : Results) : Prop where
  room : db.HasRoom schema table
  clean : (schema :: table :: r.columns.map Column.label).any Text.hasNul = false
  declarable : AreDeclarable r.columns
  widths : ∀ row ∈ r.rows, row.length = r.columns.length
  idle : db.saved? = none

variable {r : Results} {loaded : Database}

/-- The database that a result was loaded into. -/
def withCopy (db : Database) (schema table : String) (r : Results) : Database :=
  (db.withTable schema (copyTable table r.columns [])).putTable schema
    (copyTable table r.columns r.rows)

theorem tableAt?_withCopy (room : db.HasRoom schema table) (r : Results) :
    ∃ name, (db.withCopy schema table r).tableAt? schema table
      = some (name, copyTable table r.columns r.rows) := by
  obtain ⟨s, found, absent⟩ := room.free
  exact ⟨s.name, tableAt?_putTable (schema?_withTable found _) (table?_concat absent rfl) rfl⟩

/-- The table of a copy takes the rows that have a cell for each of its columns. -/
theorem fillCopy_withTable_eq_ok_iff (room : db.HasRoom schema table) :
    (db.withTable schema (copyTable table r.columns [])).fillCopy schema table r.rows = .ok filled ↔
      db.saved? = none ∧ (∀ row ∈ r.rows, row.length = r.columns.length) ∧
        filled = db.withCopy schema table r := by
  obtain ⟨s, found, absent⟩ := room.free
  have made := schema?_withTable found (copyTable table r.columns [])
  have put := changeSchema_name made
  rw [fillCopy_eq_ok_iff (tableAt?_of_schema? made (table?_concat absent rfl))]
  simp only [foldlM_addCells, List.nil_append, putTable, put]
  constructor
  · rintro ⟨idle, _, ⟨widths, rfl⟩, rfl⟩
    exact ⟨idle, widths, rfl⟩
  · rintro ⟨idle, widths, rfl⟩
    exact ⟨idle, _, ⟨widths, rfl⟩, rfl⟩

theorem load_eq_ok_iff :
    db.load schema table r = (.ok (), loaded) ↔
      db.IsLoadable schema table r ∧ r.columns ≠ [] ∧ loaded = db.withCopy schema table r := by
  unfold load
  constructor
  · intro h
    split at h
    · cases h
    next made created =>
    split at h
    · cases h
    next filled full =>
    cases h
    obtain ⟨clean, room, declarable, filled, rfl⟩ := createCopy_eq_ok_iff.mp created
    obtain ⟨idle, widths, rfl⟩ := (fillCopy_withTable_eq_ok_iff room).mp full
    exact ⟨⟨room, clean, declarable, widths, idle⟩, filled, rfl⟩
  · rintro ⟨⟨room, clean, declarable, widths, idle⟩, filled, rfl⟩
    have created := createCopy_eq_ok_iff.mpr ⟨clean, room, declarable, filled, rfl⟩
    have full := (fillCopy_withTable_eq_ok_iff room).mpr ⟨idle, widths, rfl⟩
    rw [withTable] at full
    simp only [created, full]

theorem IsLoadable.congr {r' : Results} (h : db.IsLoadable schema table r)
    (labels : r'.columns.map Column.label = r.columns.map Column.label)
    (widths : ∀ row ∈ r'.rows, row.length = r'.columns.length) :
    db.IsLoadable schema table r' where
  room := h.room
  clean := labels ▸ h.clean
  declarable := h.declarable.congr labels
  widths := widths
  idle := h.idle

/-- Whether a result can be loaded, and what is then there, depends on its columns as they are
declared and on its rows as they are stored. -/
theorem load_congr {r' : Results} (h : db.load schema table r = (.ok (), loaded))
    (columns : r'.columns.map copyColumn = r.columns.map copyColumn)
    (widths : ∀ row ∈ r'.rows, row.length = r'.columns.length)
    (rows : r'.rows.map (storedRow r'.columns) = r.rows.map (storedRow r.columns)) :
    db.load schema table r' = (.ok (), loaded) := by
  obtain ⟨loadable, filled, rfl⟩ := load_eq_ok_iff.mp h
  have labels : r'.columns.map Column.label = r.columns.map Column.label := by
    simpa [Function.comp_def, copyColumn] using congrArg (List.map TableColumn.name) columns
  have made : copyTable table r'.columns [] = copyTable table r.columns [] := by
    rw [copyTable, copyTable, columns, numbered, numbered]
  have full : copyTable table r'.columns r'.rows = copyTable table r.columns r.rows := by
    rw [copyTable, copyTable, columns, numbered_congr rows]
  refine load_eq_ok_iff.mpr ⟨loadable.congr labels widths, fun none => filled ?_, ?_⟩
  · rw [none] at labels
    exact List.map_eq_nil_iff.mp labels.symm
  · rw [withCopy, withCopy, made, full]

end Database

/-! ## Copies -/

/-- A database to which tables were copied, in a schema of their own. -/
def Database.copyOf (schema : String) (ts : List Table) : Database :=
  ⟨[⟨"main", []⟩, ⟨"temp", []⟩, ⟨schema, ts⟩], none⟩

/-- The names under which a schema can be attached. -/
def IsAttachable (schema : String) : Prop :=
  sameName "main" schema = false ∧ sameName "temp" schema = false

/-- That a schema has no table of a name. -/
def IsFresh (ts : List Table) (table : String) : Prop := ∀ t ∈ ts, sameName t.name table = false

namespace Database

variable {schema : String} {ts : List Table}

theorem changeSchema_copyOf (attachable : IsAttachable schema) (f : List Table → List Table) :
    (copyOf schema ts).changeSchema schema f = copyOf schema (f ts) := by
  simp [changeSchema, copyOf, attachable.1, attachable.2, sameName_self]

theorem schema?_copyOf (attachable : IsAttachable schema) :
    (copyOf schema ts).schema? schema = some ⟨schema, ts⟩ := by
  simp [schema?, copyOf, attachable.1, attachable.2, sameName_self]

theorem tableAt?_copyOf (attachable : IsAttachable schema) (table : String) :
    (copyOf schema ts).tableAt? schema table
      = (ts.find? fun t => sameName t.name table).map fun t => (schema, t) := by
  simp only [tableAt?, copyOf, List.filter_cons, attachable.1, attachable.2, sameName_self]
  cases found : ts.find? fun t => sameName t.name table <;>
    simp [Schema.table?, found]

/-- The table of a new name is the one behind the others. -/
theorem find?_fresh {table : String} (fresh : IsFresh ts table) {t : Table} (h : t.name = table) :
    ((ts ++ [t]).find? fun t => sameName t.name table) = some t := by
  have none : (ts.find? fun t => sameName t.name table) = none :=
    List.find?_eq_none.mpr fun u mem => by simp [fresh u mem]
  rw [List.find?_append, none, Option.none_or, List.find?_cons, h, sameName_self]

theorem putTable_fresh (attachable : IsAttachable schema) {table : String}
    (fresh : IsFresh ts table) {t u : Table} (ht : t.name = table) (hu : u.name = table) :
    (copyOf schema (ts ++ [t])).putTable schema u = copyOf schema (ts ++ [u]) := by
  have others : ts.map (fun v => if sameName v.name u.name then u else v) = ts := by
    calc ts.map (fun v => if sameName v.name u.name then u else v)
        = ts.map id := List.map_congr_left fun v mem => by simp [hu, fresh v mem]
      _ = ts := List.map_id ts
  rw [putTable, changeSchema_copyOf attachable, List.map_append, others]
  simp [ht, hu, sameName_self]

theorem HasRoom.isFresh (attachable : IsAttachable schema) {table : String}
    (room : (copyOf schema ts).HasRoom schema table) : IsFresh ts table := by
  obtain ⟨s, found, absent⟩ := room.free
  rw [schema?_copyOf attachable] at found
  cases found
  intro t mem
  simpa using List.find?_eq_none.mp absent t mem

theorem withCopy_copyOf (attachable : IsAttachable schema) {table : String}
    (fresh : IsFresh ts table) (r : Results) :
    (copyOf schema ts).withCopy schema table r
      = copyOf schema (ts ++ [copyTable table r.columns r.rows]) := by
  rw [withCopy, withTable, changeSchema_copyOf attachable]
  exact putTable_fresh attachable fresh rfl rfl

/-- A result that was loaded is the last table, and every one of its rows has a cell for each
column. -/
theorem load_copyOf (attachable : IsAttachable schema) {table : String} {r : Results}
    {loaded : Database} (h : (copyOf schema ts).load schema table r = (.ok (), loaded)) :
    ('\x00' ∉ schema.toList ∧ '\x00' ∉ table.toList) ∧ IsFresh ts table
      ∧ (∀ row ∈ r.rows, row.length = r.columns.length)
      ∧ loaded = copyOf schema (ts ++ [copyTable table r.columns r.rows]) := by
  obtain ⟨loadable, -, rfl⟩ := load_eq_ok_iff.mp h
  have clean := loadable.clean
  simp only [List.any_cons, Bool.or_eq_false_iff] at clean
  have names : '\x00' ∉ schema.toList ∧ '\x00' ∉ table.toList := by
    simpa [Text.hasNul] using And.intro clean.1 clean.2.1
  have fresh := loadable.room.isFresh attachable
  exact ⟨names, fresh, loadable.widths, withCopy_copyOf attachable fresh r⟩

end Database

end RowCheck.Sql
