import RowCheck.Proofs.Sql.Lookup
import RowCheck.Sql.Connection
import Mathlib.Data.List.Pairwise

/-!
# Loading as one transaction

A copy is made by a statement of its own, and its rows are added one by one in a transaction that is
rolled back if one of them is refused. Whichever row that is, the rollback leaves the table as it
was made, without rows. Main statement: a load that fails leaves every table as it was and at most
adds one without rows; a load that succeeds adds the table with all rows.
-/

namespace RowCheck.Sql

namespace Database

/-! ## Statement by statement -/

/-- Adds one row of a copy. -/
def insertCells (db : Database) (schema table : String) (row : List Cell) :
    Except Error Database := do
  let (name, t) ← db.locate ⟨some (nameAt schema 0), nameAt table 0⟩
  return db.putTable name (← t.addCells row)

/-- Adds the rows of a copy one by one, up to the first one that is refused. -/
def insertEach (schema table : String) :
    List (List Cell) → Database → Except Error Unit × Database
  | [], db => (.ok (), db)
  | row :: rows, db =>
    match db.insertCells schema table row with
    | .error e => (.error e, db)
    | .ok db => insertEach schema table rows db

/-- Gives a transaction up. -/
def giveUp (db : Database) : Database :=
  match db.rollback with
  | .ok db => db
  | .error _ => db

/-- Adds the rows of a copy one by one in a transaction, which is given up if one of its statements
fails. -/
def fillEach (db : Database) (schema table : String) (rows : List (List Cell)) :
    Except Error Unit × Database :=
  match db.begin with
  | .error e => (.error e, db)
  | .ok begun =>
    match insertEach schema table rows begun with
    | (.error e, left) => (.error e, left.giveUp)
    | (.ok (), full) =>
      match full.commit with
      | .error e => (.error e, full.giveUp)
      | .ok filled => (.ok (), filled)

/-- Copies a result into a new table, statement by statement. -/
def loadEach (db : Database) (schema table : String) (r : Results) :
    Except Error Unit × Database :=
  match db.createCopy schema table r.columns with
  | .error e => (.error e, db)
  | .ok made => made.fillEach schema table r.rows

variable {db made left : Database} {schema table name : String} {s : Schema} {t u full : Table}
  {row : List Cell} {rows : List (List Cell)} {e : Error}

/-! ## What a statement keeps -/

/-- What no statement of a transaction changes: the names of the schemas, and the state to which the
transaction goes back. -/
structure Within (db later : Database) : Prop where
  names : later.schemas.map Schema.name = db.schemas.map Schema.name
  saved : later.saved? = db.saved?

theorem Within.refl (db : Database) : db.Within db := ⟨rfl, rfl⟩

theorem Within.trans {later last : Database} (h : db.Within later) (h' : later.Within last) :
    db.Within last :=
  ⟨h'.names.trans h.names, h'.saved.trans h.saved⟩

theorem within_changeSchema (db : Database) (schema : String) (f : List Table → List Table) :
    db.Within (db.changeSchema schema f) := by
  refine ⟨?_, rfl⟩
  rw [changeSchema, List.map_map]
  refine List.map_congr_left fun x _ => ?_
  dsimp only [Function.comp]
  split <;> rfl

theorem within_insertCells (h : db.insertCells schema table row = .ok left) : db.Within left := by
  obtain ⟨⟨name, t⟩, -, h⟩ := bind_eq_ok h
  obtain ⟨u, -, h⟩ := bind_eq_ok h
  cases h
  exact within_changeSchema ..

theorem within_insertEach {outcome : Except Error Unit}
    (h : insertEach schema table rows db = (outcome, left)) : db.Within left := by
  induction rows generalizing db with
  | nil =>
    cases h
    exact .refl _
  | cons row rows ih =>
    rw [insertEach] at h
    split at h
    · cases h
      exact .refl _
    · next next added => exact (within_insertCells added).trans (ih h)

/-- However many rows a transaction has added, giving it up leaves what was there before it. -/
theorem giveUp_of_within {begun : Database} (opened : db.begin = .ok begun)
    (h : begun.Within left) : left.giveUp = db := by
  obtain ⟨schemas, saved?⟩ := db
  cases saved? with
  | some saved => cases opened
  | none =>
    cases opened
    obtain ⟨schemas', saved'⟩ := left
    obtain ⟨names, rfl⟩ := h
    have count : schemas'.length = schemas.length := by
      simpa only [List.length_map] using congrArg List.length names
    have further : schemas'.drop schemas.length = [] := List.drop_eq_nil_of_le (Nat.le_of_eq count)
    simp only [giveUp, rollback, further, List.map_nil, List.append_nil]

/-! ## Rows of a transaction -/

theorem name_addCells (h : t.addCells row = .ok u) : u.name = t.name := by
  simp only [Table.addCells] at h
  split at h
  · obtain ⟨number, -, h⟩ := bind_eq_ok h
    obtain ⟨stored, -, h⟩ := bind_eq_ok h
    obtain ⟨⟨⟩, -, h⟩ := bind_eq_ok h
    cases h
    rfl
  · cases h

theorem insertCells_eq (found : db.schema? schema = some s) (has : s.table? table = some t) :
    db.insertCells schema table row = (t.addCells row).map (db.putTable schema) := by
  have located : db.locate ⟨some (nameAt schema 0), nameAt table 0⟩ = .ok (s.name, t) :=
    db.locate_qualified rfl rfl (tableAt?_of_schema? found has)
  have place (u : Table) : db.putTable s.name u = db.putTable schema u :=
    changeSchema_name found _
  simp only [insertCells, located, ok_bind, place]
  cases t.addCells row <;> rfl

/-- Of two tables that are put in one place, the second one stays. -/
theorem putTable_putTable (db : Database) (schema : String) (named : full.name = u.name) :
    (db.putTable schema u).putTable schema full = db.putTable schema full := by
  rw [putTable, putTable, putTable, changeSchema, changeSchema, changeSchema, named]
  simp only [Database.mk.injEq, List.map_map, and_true]
  refine List.map_congr_left fun x _ => ?_
  dsimp only [Function.comp]
  by_cases place : sameName x.name schema = true
  · simp only [place, if_true, List.map_map, Schema.mk.injEq, true_and]
    refine List.map_congr_left fun v _ => ?_
    dsimp only [Function.comp]
    by_cases same : sameName v.name u.name = true
    · simp only [same, if_true, sameName_self]
    · simp only [same, Bool.false_eq_true, if_false]
  · simp only [place, Bool.false_eq_true, if_false]

/-- Where a table of a name is found, a table that is put in its place is found. -/
theorem holds_putTable (found : db.schema? schema = some s) (has : s.table? table = some t)
    (named : u.name = table) :
    ∃ s', (db.putTable schema u).schema? schema = some s' ∧ s'.table? table = some u := by
  have there : (db.putTable schema u).table? schema table = some u := by
    have before : db.table? schema table = some t := by rw [table?, found, Option.bind_some, has]
    rw [table?_putTable, before, named]
    simp [sameName_self]
  exact Option.bind_eq_some_iff.mp there

theorem insertEach_cons (found : db.schema? schema = some s) (has : s.table? table = some t)
    (added : t.addCells row = .ok u) (rows : List (List Cell)) :
    insertEach schema table (row :: rows) db
      = insertEach schema table rows (db.putTable schema u) := by
  rw [insertEach, insertCells_eq found has, added]
  rfl

theorem name_foldlM_addCells (h : rows.foldlM Table.addCells t = .ok full) :
    full.name = t.name := by
  induction rows generalizing t with
  | nil =>
    cases h
    rfl
  | cons row rows ih =>
    rw [List.foldlM_cons] at h
    obtain ⟨u, added, h⟩ := bind_eq_ok h
    exact (ih h).trans (name_addCells added)

/-- Rows that a table takes together are added one by one. -/
theorem insertEach_eq_ok (found : db.schema? schema = some s) (has : s.table? table = some t)
    (named : t.name = table) (settled : db.putTable schema t = db)
    (h : rows.foldlM Table.addCells t = .ok full) :
    insertEach schema table rows db = (.ok (), db.putTable schema full) := by
  induction rows generalizing db s t with
  | nil =>
    cases h
    rw [insertEach, settled]
  | cons row rows ih =>
    rw [List.foldlM_cons] at h
    obtain ⟨u, added, h⟩ := bind_eq_ok h
    have same : u.name = table := (name_addCells added).trans named
    obtain ⟨s', found', has'⟩ := holds_putTable found has same
    rw [insertEach_cons found has added, ih found' has' same (db.putTable_putTable schema rfl) h,
      db.putTable_putTable schema (name_foldlM_addCells h)]

/-- If a table does not take all of the rows, one of them is refused for the same reason. -/
theorem insertEach_eq_error (found : db.schema? schema = some s) (has : s.table? table = some t)
    (named : t.name = table) (h : rows.foldlM Table.addCells t = .error e) :
    ∃ left, insertEach schema table rows db = (.error e, left) := by
  induction rows generalizing db s t with
  | nil => cases h
  | cons row rows ih =>
    rw [List.foldlM_cons] at h
    cases added : t.addCells row with
    | error e' =>
      rw [added] at h
      cases h
      rw [insertEach, insertCells_eq found has, added]
      exact ⟨db, rfl⟩
    | ok u =>
      rw [added, ok_bind] at h
      have same : u.name = table := (name_addCells added).trans named
      obtain ⟨s', found', has'⟩ := holds_putTable found has same
      rw [insertEach_cons found has added]
      exact ih found' has' same h

/-- Filling a table row by row, with a rollback where a row is refused, gives what filling it at
once gives, and on an error the table as it was before. -/
theorem fillEach_eq (found : made.schema? schema = some s) (has : s.table? table = some t)
    (named : t.name = table) (settled : made.putTable schema t = made) :
    made.fillEach schema table rows =
      match made.fillCopy schema table rows with
      | .error e => (.error e, made)
      | .ok filled => (.ok (), filled) := by
  obtain ⟨schemas, saved?⟩ := made
  cases saved? with
  | some saved => rfl
  | none =>
    let begun : Database := ⟨schemas, some schemas⟩
    have opened : begin ⟨schemas, none⟩ = .ok begun := rfl
    have found : begun.schema? schema = some s := found
    have located : begun.locate ⟨some (nameAt schema 0), nameAt table 0⟩ = .ok (s.name, t) :=
      begun.locate_qualified rfl rfl (tableAt?_of_schema? found has)
    have settled' : begun.putTable schema t = begun := by
      have := congrArg Database.schemas settled
      exact congrArg (fun schemas' => (⟨schemas', some schemas⟩ : Database)) this
    rw [fillEach, opened, fillCopy, opened, ok_bind, located, ok_bind]
    cases taken : rows.foldlM Table.addCells t with
    | error e =>
      obtain ⟨left, refused⟩ := insertEach_eq_error found has named taken
      have back := giveUp_of_within opened (within_insertEach refused)
      simp only [refused, back]
      rw [taken]
      rfl
    | ok full =>
      have place : begun.putTable s.name full = begun.putTable schema full :=
        changeSchema_name found _
      have added := insertEach_eq_ok found has named settled' taken
      simp only [added]
      rw [taken, ok_bind, place]
      rfl

/-- That every schema has a name of its own. -/
def HasDistinctSchemas (db : Database) : Prop :=
  db.schemas.Pairwise fun a b => sameName a.name b.name = false

theorem HasDistinctSchemas.eq_of_schema? (distinct : db.HasDistinctSchemas)
    (found : db.schema? schema = some s) {x : Schema} (mem : x ∈ db.schemas)
    (named : sameName x.name schema = true) : x = s := by
  have symmetric : Std.Symm fun a b : Schema => sameName a.name b.name = false :=
    ⟨fun a b apart => by rw [sameName_comm]; exact apart⟩
  by_contra other
  have apart := List.Pairwise.forall distinct mem (List.mem_of_find?_eq_some found) other
  have same := sameName_congr (sameName_of_schema? found) x.name
  rw [same, named] at apart
  cases apart

/-- A table that was added stays as it is when it is put in its own place. -/
theorem putTable_withTable (distinct : db.HasDistinctSchemas) (room : db.HasRoom schema u.name) :
    (db.withTable schema u).putTable schema u = db.withTable schema u := by
  obtain ⟨s, found, absent⟩ := room.free
  rw [putTable, withTable, changeSchema, changeSchema]
  simp only [Database.mk.injEq, List.map_map, and_true]
  refine List.map_congr_left fun x mem => ?_
  dsimp only [Function.comp]
  by_cases place : sameName x.name schema = true
  · obtain rfl := distinct.eq_of_schema? found mem place
    have others : ∀ v ∈ x.tables, sameName v.name u.name = false := fun v mem => by
      simpa using List.find?_eq_none.mp absent v mem
    have kept : x.tables.map (fun v => if sameName v.name u.name then u else v) = x.tables := by
      refine (List.map_congr_left fun v mem => ?_).trans (List.map_id x.tables)
      rw [others v mem]
      rfl
    simp only [place, if_true, List.map_append, kept, List.map_singleton, sameName_self]
  · simp only [place, Bool.false_eq_true, if_false]

/-- Loading at once and loading statement by statement come to the same. -/
theorem load_eq_loadEach (distinct : db.HasDistinctSchemas) (schema table : String) (r : Results) :
    db.load schema table r = db.loadEach schema table r := by
  rw [load, loadEach]
  cases created : db.createCopy schema table r.columns with
  | error e => rfl
  | ok made =>
    obtain ⟨-, room, -, -, rfl⟩ := createCopy_eq_ok_iff.mp created
    obtain ⟨s, found, absent⟩ := room.free
    have settled := putTable_withTable (u := copyTable table r.columns []) distinct room
    exact (fillEach_eq (schema?_withTable found _) (table?_concat absent rfl) rfl settled).symm

/-! ## What a load leaves behind -/

/-- A database after a change at one place for a table: everything but a table at this place is as
it was, and a table that was there still is. -/
structure Keeps (db after : Database) (schema table : String) : Prop where
  within : db.Within after
  kept : ∀ s t u, db.table? s t = some u → after.table? s t = some u
  others : ∀ s t, ¬(sameName s schema = true ∧ sameName t table = true) →
    after.table? s t = db.table? s t

theorem Keeps.refl (db : Database) (schema table : String) : db.Keeps db schema table :=
  ⟨.refl db, fun _ _ _ found => found, fun _ _ _ => rfl⟩

theorem keeps_withTable (db : Database) (schema : String) (u : Table) :
    db.Keeps (db.withTable schema u) schema u.name :=
  ⟨within_changeSchema .., fun _ _ _ found => table?_withTable_of_some found schema u,
    fun _ _ other => table?_withTable_of_not other⟩

theorem keeps_withCopy (room : db.HasRoom schema table) (r : Results) :
    db.Keeps (db.withCopy schema table r) schema table := by
  let made := copyTable table r.columns []
  let full := copyTable table r.columns r.rows
  have added : db.Keeps (db.withTable schema made) schema table := keeps_withTable db schema made
  have put (s t : String) (other : ¬(sameName s schema = true ∧ sameName t table = true)) :
      (db.withCopy schema table r).table? s t = (db.withTable schema made).table? s t := by
    have unmoved : ¬(sameName s schema = true ∧ sameName t full.name = true) := other
    rw [withCopy, table?_putTable]
    cases (db.withTable schema made).table? s t with
    | none => rfl
    | some v => rw [Option.map_some, if_neg unmoved]
  refine ⟨added.within.trans (within_changeSchema ..), fun s t u found => ?_, fun s t other => ?_⟩
  · -- A table that was there is not at the place of the new one, which was free.
    have other : ¬(sameName s schema = true ∧ sameName t table = true) := by
      rintro ⟨sameSchema, sameTable⟩
      rw [table?_congr sameSchema sameTable, room.table?_eq_none] at found
      cases found
    rw [put s t other]
    exact added.kept s t u found
  · rw [put s t other]
    exact added.others s t other

variable {r : Results}

/-- A load ends in one of three ways: no table is made, a table is made and stays empty, or it is
filled. -/
theorem load_cases (db : Database) (schema table : String) (r : Results) :
    (∃ e, db.load schema table r = (.error e, db)) ∨
      (db.HasRoom schema table ∧ ∃ e, db.load schema table r
        = (.error e, db.withTable schema (copyTable table r.columns []))) ∨
      (db.HasRoom schema table ∧
        db.load schema table r = (.ok (), db.withCopy schema table r)) := by
  rw [load]
  cases created : db.createCopy schema table r.columns with
  | error e => exact .inl ⟨e, rfl⟩
  | ok made =>
    obtain ⟨-, room, -, -, same⟩ := createCopy_eq_ok_iff.mp created
    have same : made = db.withTable schema (copyTable table r.columns []) := same
    cases full : made.fillCopy schema table r.rows with
    | error e =>
      simp only [full]
      exact .inr (.inl ⟨room, e, by rw [same]⟩)
    | ok filled =>
      simp only [full]
      rw [same] at full
      obtain ⟨-, -, rfl⟩ := (fillCopy_withTable_eq_ok_iff room).mp full
      exact .inr (.inr ⟨room, rfl⟩)

theorem table?_withCopy (room : db.HasRoom schema table) (r : Results) :
    (db.withCopy schema table r).table? schema table
      = some (copyTable table r.columns r.rows) := by
  have made := table?_withTable_self (u := copyTable table r.columns []) room
  change (db.withTable schema (copyTable table r.columns [])).table? schema table = _ at made
  rw [withCopy, table?_putTable, made, Option.map_some]
  simp [copyTable, sameName_self]

end Database

namespace Connection

/-- A load is done as a whole or not at all. It changes no table that is there and the rest of the
connection neither. If it fails, there is at most one more table, which has no rows; if it succeeds,
there is one more table, with a row for each row of the result, in order. It comes to the same as
its statements one by one with a rollback on an error, and at whichever row that is, the rollback
leaves the table as it was made. -/
theorem load_atomic (c : Connection) (schema table : String) (r : Results) :
    ∃ outcome after, c.load schema table r = (outcome, { c with database := after }) ∧
      c.database.Keeps after schema table ∧
      (∀ e, outcome = .error e → after = c.database ∨
        c.database.table? schema table = none ∧
          ∃ u, after.table? schema table = some u ∧ u.rows = []) ∧
      (outcome = .ok () → c.database.table? schema table = none ∧
        ∃ u, after.table? schema table = some u ∧
          u.columns.map TableColumn.name = r.columns.map Column.label ∧
          u.rows.map StoredRow.values = r.rows.map (storedRow r.columns)) ∧
      (c.database.HasDistinctSchemas →
        c.database.load schema table r = c.database.loadEach schema table r) ∧
      ∀ made begun k outcome left, c.database.createCopy schema table r.columns = .ok made →
        made.begin = .ok begun →
        Database.insertEach schema table (r.rows.take k) begun = (outcome, left) →
        left.giveUp = made := by
  have steps (distinct : c.database.HasDistinctSchemas) :=
    Database.load_eq_loadEach distinct schema table r
  have rollback (made begun : Database) (k : Nat) (outcome : Except Error Unit) (left : Database)
      (_ : c.database.createCopy schema table r.columns = .ok made)
      (opened : made.begin = .ok begun)
      (h : Database.insertEach schema table (r.rows.take k) begun = (outcome, left)) :=
    Database.giveUp_of_within opened (Database.within_insertEach h)
  rcases Database.load_cases c.database schema table r with ⟨e, loaded⟩ | ⟨room, e, loaded⟩ |
    ⟨room, loaded⟩
  · refine ⟨_, c.database, by rw [load, loaded], .refl .., fun _ _ => .inl rfl, ?_, steps, rollback⟩
    intro succeeds
    cases succeeds
  · have there := Database.table?_withTable_self (u := copyTable table r.columns []) room
    refine ⟨_, _, by rw [load, loaded], Database.keeps_withTable ..,
      fun _ _ => .inr ⟨room.table?_eq_none, _, there, rfl⟩, ?_, steps, rollback⟩
    intro succeeds
    cases succeeds
  · have there := Database.table?_withCopy room r
    have labels : (copyTable table r.columns r.rows).columns.map TableColumn.name
        = r.columns.map Column.label := by
      simp [copyTable, copyColumn]
    refine ⟨_, _, by rw [load, loaded], Database.keeps_withCopy room r, ?_,
      fun _ => ⟨room.table?_eq_none, _, there, labels, values_numbered ..⟩, steps, rollback⟩
    intro e fails
    cases fails

/-- A copy that has one table, with one row. -/
def smallCopy : Connection := ⟨.copyOf "s" [copyTable "u" [⟨"a", .integer⟩] [[.int 7]]], .clone⟩

/-- A result with a row that is too short. -/
def unevenResult : Results :=
  ⟨[⟨"a", .integer⟩, ⟨"b", .text⟩], [[.int 1, .text "x"], [.int 2], [.int 3, .null]]⟩

theorem load_of_unevenResult :
    ∃ after, smallCopy.load "s" "t" unevenResult = (.error (.cloneFailed <|
        "Loading s.t: Wrong number of parameters passed to query. Got 1, needed 2"),
        { smallCopy with database := after }) ∧
      after.table? "S" "U" = some (copyTable "u" [⟨"a", .integer⟩] [[.int 7]]) ∧
      (∃ u, after.table? "s" "t" = some u ∧ u.rows = []) ∧
      smallCopy.database.HasDistinctSchemas ∧
      smallCopy.database.loadEach "s" "t" unevenResult
        = (.error (.parameterCount 1 2), after) := by
  have refused : smallCopy.database.load "s" "t" unevenResult
      = (.error (.parameterCount 1 2), (smallCopy.load "s" "t" unevenResult).2.database) := by
    decide +kernel
  have message : (smallCopy.load "s" "t" unevenResult).1 = .error (.cloneFailed <|
      "Loading s.t: Wrong number of parameters passed to query. Got 1, needed 2") := by
    rw [load, refused]
    rfl
  have made : ((smallCopy.load "s" "t" unevenResult).2.database.table? "s" "t").isSome = true := by
    decide +kernel
  have distinct : smallCopy.database.HasDistinctSchemas := by
    unfold Database.HasDistinctSchemas
    decide
  obtain ⟨outcome, after, loaded, keeps, failed, -, steps, -⟩ :=
    load_atomic smallCopy "s" "t" unevenResult
  rw [loaded] at message refused made
  refine ⟨after, by rw [loaded, ← message], keeps.kept _ _ _ (by decide), ?_, distinct, ?_⟩
  · rcases failed _ message with same | ⟨-, added⟩
    · have absent : smallCopy.database.table? "s" "t" = none := by decide
      rw [same, absent] at made
      cases made
    · exact added
  · exact (steps distinct).symm.trans refused

end Connection

end RowCheck.Sql
