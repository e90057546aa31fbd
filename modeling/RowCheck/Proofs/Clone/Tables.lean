import RowCheck.Clone
import RowCheck.Proofs.Sql.Reread

/-!
# What a clone holds

A clone that succeeds has asked its source for every table, in the order of the list, and holds a
copy of each answer. Which other tables there are makes no difference to a table: their names are
different, and a table stays as it is when further ones are loaded.
-/

namespace RowCheck

/-- Runs queries one after the other. -/
def Connection.run (c : Connection) : List String → List (Except Failure Results) × Connection
  | [] => ([], c)
  | sql :: queries =>
    let (outcome, c) := c.execute sql
    let (outcomes, c) := c.run queries
    (outcome :: outcomes, c)

theorem Connection.run_cons {c next : Connection} {sql : String} {outcome : Except Failure Results}
    (h : c.execute sql = (outcome, next)) (queries : List String) :
    c.run (sql :: queries) = (outcome :: (next.run queries).1, (next.run queries).2) := by
  simp only [run, h]

/-- The queries by which tables are read. -/
def readings (schema : String) (tables : List String) : List String :=
  tables.map (Sql.selectText schema)

open Sql (copyTable IsAttachable IsFresh)
open Sql.Database (copyOf)

/-- Loading results as tables of a schema, one after the other. -/
inductive Loaded (schema : String) :
    List Sql.Table → List String → List Results → List Sql.Table → Prop
  | nil (ts : List Sql.Table) : Loaded schema ts [] [] ts
  | cons {ts ts₁ ts' : List Sql.Table} {table : String} {r : Results} {tables : List String}
      {rs : List Results} :
    (copyOf schema ts).load schema table r = (.ok (), copyOf schema ts₁) →
      Loaded schema ts₁ tables rs ts' → Loaded schema ts (table :: tables) (r :: rs) ts'

namespace Loaded

variable {schema : String} {ts ts' : List Sql.Table} {tables : List String} {rs : List Results}

/-- What is read from the copies is loaded as the results that were copied. -/
theorem copied (attachable : IsAttachable schema) (h : Loaded schema ts tables rs ts') :
    Loaded schema ts tables (rs.map Results.copied) ts' := by
  induction h with
  | nil ts => exact .nil ts
  | cons load _ ih => exact .cons (Sql.Database.load_copied attachable load) ih

/-- One step adds one table behind the others. -/
theorem step (attachable : IsAttachable schema) {ts₁ : List Sql.Table} {table : String}
    {r : Results} (h : (copyOf schema ts).load schema table r = (.ok (), copyOf schema ts₁)) :
    ('\x00' ∉ schema.toList ∧ '\x00' ∉ table.toList) ∧ IsFresh ts table
      ∧ (∀ row ∈ r.rows, row.length = r.columns.length)
      ∧ ts₁ = ts ++ [copyTable table r.columns r.rows] := by
  obtain ⟨clean, fresh, widths, same⟩ := Sql.Database.load_copyOf attachable h
  simp only [copyOf, Sql.Database.mk.injEq, List.cons.injEq, Sql.Schema.mk.injEq] at same
  exact ⟨clean, fresh, widths, same.1.2.2.1.2⟩

/-- Tables that are there stay as they are. -/
theorem isPrefix (attachable : IsAttachable schema) (h : Loaded schema ts tables rs ts') :
    ts <+: ts' := by
  induction h with
  | nil ts => exact List.prefix_rfl
  | cons load _ ih =>
    obtain ⟨-, -, -, rfl⟩ := step attachable load
    exact (List.prefix_append ..).trans ih

/-- Every result is found in the end under the name of its table. -/
theorem found (attachable : IsAttachable schema) (h : Loaded schema ts tables rs ts') {i : Nat}
    {table : String} (listed : tables[i]? = some table) :
    ∃ r, rs[i]? = some r ∧ ('\x00' ∉ schema.toList ∧ '\x00' ∉ table.toList)
      ∧ (∀ row ∈ r.rows, row.length = r.columns.length)
      ∧ (copyOf schema ts').tableAt? schema table
          = some (schema, copyTable table r.columns r.rows) := by
  induction h generalizing i with
  | nil ts => cases listed
  | @cons ts ts₁ ts' name r tables rs load more ih =>
    cases i with
    | succ i => exact ih listed
    | zero =>
      cases listed
      obtain ⟨clean, fresh, widths, rfl⟩ := step attachable load
      obtain ⟨further, rfl⟩ := more.isPrefix attachable
      refine ⟨r, rfl, clean, widths, ?_⟩
      rw [Sql.Database.tableAt?_copyOf attachable, List.find?_append,
        Sql.Database.find?_fresh fresh rfl]
      rfl

end Loaded

/-! ## Cloning -/

section Clone

variable {schema : String} {ts : List Sql.Table} {tables : List String}
  {source after : Connection} {copy : Sql.Connection}

theorem Sql.Connection.load_eq_ok {loaded : Sql.Connection} {table : String} {r : Results} :
    copy.load schema table r = (.ok (), loaded)
      ↔ ∃ db, copy.database.load schema table r = (.ok (), db)
        ∧ loaded = { copy with database := db } := by
  rcases load : copy.database.load schema table r with ⟨outcome, db⟩
  cases outcome with
  | error e => simp [Sql.Connection.load, load]
  | ok =>
    simp only [Sql.Connection.load, load]
    constructor
    · intro h
      cases h
      exact ⟨db, rfl, rfl⟩
    · rintro ⟨db, same, rfl⟩
      cases same
      rfl

/-- Cloning a table succeeds if the source answers with a result that is loaded. -/
theorem cloneTable_eq_ok {loaded : Sql.Connection} {table : String} :
    cloneTable schema table source copy = (.ok loaded, after)
      ↔ ∃ r, source.execute (Sql.selectText schema table) = (.ok r, after)
        ∧ copy.load schema table r = (.ok (), loaded) := by
  constructor
  · intro h
    simp only [cloneTable] at h
    split at h
    · cases h
    · cases h
    · next r answer =>
      split at h
      · cases h
      · next loaded load =>
        cases h
        exact ⟨r, Prod.ext answer rfl, load⟩
  · rintro ⟨r, answer, load⟩
    simp only [cloneTable, answer, load]

theorem cloneTable_copyOf (attachable : IsAttachable schema) {table : String} :
    cloneTable schema table source ⟨copyOf schema ts, .clone⟩ = (.ok copy, after)
      ↔ ∃ r ts₁, source.execute (Sql.selectText schema table) = (.ok r, after)
        ∧ (copyOf schema ts).load schema table r = (.ok (), copyOf schema ts₁)
        ∧ copy = ⟨copyOf schema ts₁, .clone⟩ := by
  rw [cloneTable_eq_ok]
  constructor
  · rintro ⟨r, answer, load⟩
    obtain ⟨db, held, rfl⟩ := Sql.Connection.load_eq_ok.mp load
    obtain ⟨-, -, -, rfl⟩ := Sql.Database.load_copyOf attachable held
    exact ⟨r, _, answer, held, rfl⟩
  · rintro ⟨r, ts₁, answer, load, rfl⟩
    exact ⟨r, answer, Sql.Connection.load_eq_ok.mpr ⟨_, load, rfl⟩⟩

/-- Cloning tables succeeds if the source answers every query with a result that is loaded. -/
theorem cloneEach_copyOf (attachable : IsAttachable schema) :
    cloneEach schema tables source ⟨copyOf schema ts, .clone⟩ = (.ok copy, after)
      ↔ ∃ rs ts', source.run (readings schema tables) = (rs.map .ok, after)
        ∧ Loaded schema ts tables rs ts' ∧ copy = ⟨copyOf schema ts', .clone⟩ := by
  induction tables generalizing ts source with
  | nil =>
    constructor
    · intro h
      cases h
      exact ⟨[], ts, rfl, .nil ts, rfl⟩
    · rintro ⟨rs, ts', answers, loaded, rfl⟩
      cases loaded
      cases answers
      rfl
  | cons table tables ih =>
    constructor
    · intro h
      rw [cloneEach] at h
      split at h
      · cases h
      · next first following cloned =>
        obtain ⟨r, ts₁, answer, load, rfl⟩ := (cloneTable_copyOf attachable).mp cloned
        obtain ⟨rs, ts', answers, more, rfl⟩ := ih.mp h
        refine ⟨r :: rs, ts', ?_, .cons load more, rfl⟩
        have others : following.run (tables.map (Sql.selectText schema)) = (rs.map .ok, after) :=
          answers
        rw [readings, List.map_cons, Connection.run_cons answer, others]
        rfl
    · rintro ⟨rs, ts', answers, loaded, rfl⟩
      cases loaded with
      | @cons _ ts₁ _ _ r _ rs load more =>
        rcases answer : source.execute (Sql.selectText schema table) with ⟨outcome, following⟩
        rw [readings, List.map_cons, Connection.run_cons answer, List.map_cons, Prod.mk.injEq,
          List.cons.injEq] at answers
        obtain ⟨⟨rfl, others⟩, last⟩ := answers
        have cloned : cloneTable schema table source ⟨copyOf schema ts, .clone⟩
            = (.ok ⟨copyOf schema ts₁, .clone⟩, following) :=
          (cloneTable_copyOf attachable).mpr ⟨r, ts₁, answer, load, rfl⟩
        rw [cloneEach, cloned]
        exact ih.mpr ⟨rs, ts', Prod.ext others last, more, rfl⟩

/-! Attaching the schema. -/

theorem attach_blank (clean : Text.hasNul schema = false)
    (h : Sql.Connection.blank.attach schema = .ok copy) :
    IsAttachable schema ∧ copy = ⟨copyOf schema [], .clone⟩ := by
  have performed : Sql.Database.empty.attachSchema schema = Sql.Database.empty.attach schema := by
    simp [Sql.Database.attachSchema, Sql.Database.perform, clean]
  unfold Sql.Connection.attach at h
  split at h
  · next db attached =>
    cases h
    rw [show Sql.Connection.blank.database = Sql.Database.empty from rfl, performed,
      Sql.Database.attach] at attached
    split at attached
    · cases attached
    · split at attached
      · cases attached
      · next free =>
        cases attached
        have names : IsAttachable schema := by
          simpa [Sql.Database.schema?, Sql.Database.empty, IsAttachable] using free
        exact ⟨names, rfl⟩
  · cases h

/-- Under a schema with a NUL in its name nothing can be loaded. -/
theorem load_nul (db : Sql.Database) (nul : Text.hasNul schema = true) (table : String)
    (r : Results) : ∃ e, (db.load schema table r).1 = .error e := by
  rcases load : db.load schema table r with ⟨outcome, loaded⟩
  cases outcome with
  | error e => exact ⟨e, rfl⟩
  | ok =>
    have clean := (Sql.Database.load_eq_ok_iff.mp load).1.clean
    rw [List.any_cons, nul] at clean
    cases clean

/-- What a clone of some tables is. -/
theorem clone_ok (h : clone source schema tables = (.ok copy, after)) (listed : tables ≠ []) :
    Sql.Connection.blank.attach schema = .ok ⟨copyOf schema [], .clone⟩ ∧ IsAttachable schema
      ∧ ∃ rs ts, source.run (readings schema tables) = (rs.map .ok, after)
        ∧ Loaded schema [] tables rs ts ∧ copy = ⟨copyOf schema ts, .clone⟩ := by
  rw [clone] at h
  split at h
  · cases h
  · next attached opened =>
    cases nul : Text.hasNul schema with
    | false =>
      obtain ⟨attachable, rfl⟩ := attach_blank nul opened
      exact ⟨opened, attachable, (cloneEach_copyOf attachable).mp h⟩
    | true =>
      obtain ⟨table, tables, rfl⟩ := List.exists_cons_of_ne_nil listed
      rw [cloneEach] at h
      split at h
      · cases h
      · next cloned =>
        obtain ⟨r, -, load⟩ := cloneTable_eq_ok.mp cloned
        obtain ⟨db, held, -⟩ := Sql.Connection.load_eq_ok.mp load
        obtain ⟨e, failed⟩ := load_nul attached.database nul table r
        rw [held] at failed
        cases failed

end Clone

/-! ## Reading the clone -/

/-- The query for a table that holds a copy is answered with what the copy is read as. -/
theorem execute_copyTable {db : Sql.Database} {schema table : String} {r : Results}
    (clean : '\x00' ∉ schema.toList ∧ '\x00' ∉ table.toList)
    (found : db.tableAt? schema table = some (schema, copyTable table r.columns r.rows)) :
    Sql.Connection.execute ⟨db, .clone⟩ (Sql.selectText schema table)
      = (.ok r.copied, ⟨db, .clone⟩) := by
  simp only [Sql.Connection.execute, Sql.execute_selectText clean.1 clean.2 found,
    Sql.results_copyTable]

namespace Loaded

variable {schema : String} {ts ts' : List Sql.Table} {tables : List String} {rs : List Results}

/-- The clone answers the query for a table with the copy of the result that was loaded. -/
theorem execute (attachable : IsAttachable schema) (h : Loaded schema ts tables rs ts') {i : Nat}
    {table : String} (listed : tables[i]? = some table) :
    ∃ r, rs[i]? = some r ∧ (∀ row ∈ r.rows, row.length = r.columns.length)
      ∧ Sql.Connection.execute ⟨copyOf schema ts', .clone⟩ (Sql.selectText schema table)
          = (.ok r.copied, ⟨copyOf schema ts', .clone⟩) := by
  obtain ⟨r, answer, clean, widths, found⟩ := h.found attachable listed
  exact ⟨r, answer, widths, execute_copyTable clean found⟩

/-- The clone answers the queries for all tables with the copies of the results. -/
theorem run (attachable : IsAttachable schema) (h : Loaded schema ts tables rs ts') :
    (Connection.engine ⟨copyOf schema ts', .clone⟩).run (readings schema tables)
      = ((rs.map Results.copied).map .ok, .engine ⟨copyOf schema ts', .clone⟩) := by
  induction h with
  | nil ts => rfl
  | @cons ts ts₁ ts' table r tables rs load more ih =>
    obtain ⟨r', same, -, answer⟩ := (Loaded.cons load more).execute attachable rfl (i := 0)
    cases same
    have answer : (Connection.engine ⟨copyOf schema ts', .clone⟩).execute
        (Sql.selectText schema table)
          = (.ok r.copied, .engine ⟨copyOf schema ts', .clone⟩) := by
      simp only [Connection.execute, answer]
      rfl
    rw [readings] at ih ⊢
    rw [List.map_cons, Connection.run_cons answer, ih]
    rfl

end Loaded

variable {source after : Connection} {schema : String} {tables : List String}
  {copy : Sql.Connection}

/-- A clone answers the query for one of its tables with the copy of the source's answer. -/
theorem clone_execute (cloned : clone source schema tables = (.ok copy, after)) {i : Nat}
    {table : String} (listed : tables[i]? = some table) :
    ∃ r, (source.run (readings schema tables)).1[i]? = some (.ok r)
      ∧ (∀ row ∈ r.rows, row.length = r.columns.length)
      ∧ copy.execute (Sql.selectText schema table) = (.ok r.copied, copy) := by
  have nonempty : tables ≠ [] := by
    rintro rfl
    cases listed
  obtain ⟨-, attachable, rs, ts, answers, loaded, rfl⟩ := clone_ok cloned nonempty
  obtain ⟨r, answer, widths, read⟩ := loaded.execute attachable listed
  exact ⟨r, by simp [answers, answer], widths, read⟩

/-- Outside of numeric columns a clone holds exactly the cells of its source: the labels and rows of
every table in their order, and every cell that fits its column as it is kept. -/
theorem clone_keeps_cells (cloned : clone source schema tables = (.ok copy, after)) {i : Nat}
    {table : String} (listed : tables[i]? = some table) :
    ∃ r, (source.run (readings schema tables)).1[i]? = some (.ok r)
      ∧ ((∀ row ∈ r.rows, ∀ p ∈ r.columns.zip row, p.2.Fits p.1.type) →
        ∃ read, copy.execute (Sql.selectText schema table) = (.ok read, copy)
          ∧ read.columns.map Column.label = r.columns.map Column.label
          ∧ read.rows = r.rows.map (·.map Cell.kept)) := by
  obtain ⟨r, answer, widths, read⟩ := clone_execute cloned listed
  refine ⟨r, answer, fun fits => ⟨r.copied, read, ?_, ?_⟩⟩
  · simp [Results.copied, Sql.readColumn]
  · exact List.map_congr_left fun row mem => Sql.rereadRow_of_fits (widths row mem) (fits row mem)

/-- A source that has one answer to every query. -/
def steadySource (r : Results) : Connection := .scripted ⟨"source", fun _ _ => .ok r, []⟩

/-- A result with a label in quotes, and with a text that looks like a number. -/
def sampleResult : Results :=
  ⟨[⟨"n", .integer⟩, ⟨"a \"b\"", .boolean⟩, ⟨"x", .double⟩, ⟨"bytes", .bytea⟩, ⟨"code", .text⟩],
    [[.int 7, .bool true, .float (.ofInt 2), .binary [0], .text "007"],
      [.null, .null, .null, .null, .null]]⟩

/-- A clone of one table with that result. -/
def sampleClone : Sql.Connection :=
  ⟨copyOf "s" [copyTable "t" sampleResult.columns sampleResult.rows], .clone⟩

theorem sampleClone_keeps_cells :
    ∃ read, sampleClone.execute (Sql.selectText "s" "t") = (.ok read, sampleClone)
      ∧ read.columns.map Column.label = ["n", "a \"b\"", "x", "bytes", "code"]
      ∧ read.rows = [[.int 7, .int 1, .float (.ofInt 2), .binary [0], .text "007"],
        [.null, .null, .null, .null, .null]] := by
  have cloned : clone (steadySource sampleResult) "s" ["t"]
      = (.ok sampleClone, (clone (steadySource sampleResult) "s" ["t"]).2) := rfl
  obtain ⟨r, answer, kept⟩ := clone_keeps_cells cloned (i := 0) rfl
  cases answer
  exact kept (by decide)

/-- The clone of a clone is that clone. -/
theorem clone_clone (h : clone source schema tables = (.ok copy, after)) :
    clone (.engine copy) schema tables = (.ok copy, .engine copy) := by
  by_cases listed : tables = []
  · subst listed
    rw [clone] at h ⊢
    split at h
    · cases h
    · next attached opened =>
      cases h
      rfl
  · obtain ⟨attached, attachable, rs, ts, -, loaded, rfl⟩ := clone_ok h listed
    rw [clone, attached]
    exact (cloneEach_copyOf attachable).mpr
      ⟨rs.map Results.copied, ts, loaded.run attachable, loaded.copied attachable, rfl⟩

/-- A clone that succeeds is cloned again with success, and the tables of the two clones are the
same: a declared type selects the affinity that it was declared for, and a stored value that is
read and stored again does not change. -/
theorem clone_idempotent (cloned : clone source schema tables = (.ok copy, after)) :
    (∃ again, clone (.engine copy) schema tables = (.ok again, .engine copy)
      ∧ ∀ table ∈ tables, ∃ r,
        copy.execute (Sql.selectText schema table) = (.ok r, copy)
          ∧ again.execute (Sql.selectText schema table) = (.ok r, again))
    ∧ (∀ type : ColumnType,
      (ColumnType.ofDeclared type.affinity.name.toList).affinity = type.affinity)
    ∧ ∀ (a : Affinity) (c : Cell), ∃ d, Sql.Database.cell ((Sql.storedCell c).store a) = .ok d
      ∧ (Sql.storedCell d).store a = (Sql.storedCell c).store a := by
  refine ⟨⟨copy, clone_clone cloned, fun table listed => ?_⟩, fun type => ?_, Sql.cell_store⟩
  · obtain ⟨i, found⟩ := List.getElem?_of_mem listed
    obtain ⟨r, -, -, answer⟩ := clone_execute cloned found
    exact ⟨r.copied, answer, answer⟩
  · rw [ColumnType.ofDeclared, Affinity.ofDeclared_name, ColumnType.affinity_ofAffinity]

/-- A result whose cells are of other sorts than its columns. -/
def mismatchedResult : Results :=
  ⟨[⟨"n", .integer⟩, ⟨"x", .real⟩, ⟨"d", .numeric⟩, ⟨"t", .varchar⟩],
    [[.text "12", .int 3, .text "1.50", .int 5], [.text "a", .text "1e2", .float .nan, .bool true]]⟩

/-- A clone of one table with that result. -/
def mismatchedClone : Sql.Connection :=
  ⟨copyOf "s" [copyTable "t" mismatchedResult.columns mismatchedResult.rows], .clone⟩

theorem mismatchedClone_cloned :
    ∃ again, clone (.engine mismatchedClone) "s" ["t"] = (.ok again, .engine mismatchedClone)
      ∧ ∀ table ∈ ["t"], ∃ r,
        mismatchedClone.execute (Sql.selectText "s" table) = (.ok r, mismatchedClone)
          ∧ again.execute (Sql.selectText "s" table) = (.ok r, again) := by
  have cloned : clone (steadySource mismatchedResult) "s" ["t"]
      = (.ok mismatchedClone, (clone (steadySource mismatchedResult) "s" ["t"]).2) := rfl
  exact (clone_idempotent cloned).1

end RowCheck
