import RowCheck.Proofs.Sql.Loading
import RowCheck.Proofs.Sql.Storing

/-!
# Reading a copied table

What a query for all of a copied table returns: the labels of the result that was copied, types by
which a further copy gets the same affinities, and each cell as its column stores it. A further copy
of that holds the same rows. The cells that fit their columns are kept.
-/

namespace RowCheck

namespace Sql

/-- The cell that is read from a column of an affinity after a cell was stored there. -/
def reread (a : Affinity) (c : Cell) : Cell :=
  match Database.cell ((storedCell c).store a) with
  | .ok d => d
  | .error _ => .null

/-- Storing what was read changes nothing. -/
theorem cell_reread (a : Affinity) (c : Cell) :
    Database.cell ((storedCell c).store a) = .ok (reread a c)
      ∧ (storedCell (reread a c)).store a = (storedCell c).store a := by
  obtain ⟨d, read, stored⟩ := cell_store a c
  rw [reread, read]
  exact ⟨rfl, stored⟩

/-- The column under which the copy of a column is reported. -/
def readColumn (c : Column) : Column := ⟨c.label, .ofAffinity c.type.affinity⟩

/-- A copy of a reported copy is declared as the copy is. -/
theorem copyColumn_readColumn (c : Column) : copyColumn (readColumn c) = copyColumn c := by
  simp [copyColumn, readColumn, ColumnType.affinity_ofAffinity]

/-- The row that is read from a copy of a row. -/
def rereadRow (columns : List Column) (row : List Cell) : List Cell :=
  columns.zipWith (fun c cell => reread c.type.affinity cell) row

end Sql

/-- The result that is read from a copy of a result. -/
def Results.copied (r : Results) : Results :=
  ⟨r.columns.map Sql.readColumn, r.rows.map (Sql.rereadRow r.columns)⟩

namespace Sql

variable (columns : List Column)

theorem mapM_cell_storedRow (row : List Cell) :
    (storedRow columns row).mapM Database.cell = .ok (rereadRow columns row) := by
  have stored : storedRow columns row
      = (columns.zip row).map fun p => (storedCell p.2).store p.1.type.affinity := by
    rw [List.map_zip_eq_zipWith]
    rfl
  rw [stored, mapM_map_ok fun p _ => (cell_reread p.1.type.affinity p.2).1,
    List.map_zip_eq_zipWith]
  rfl

theorem storedRow_rereadRow (row : List Cell) :
    storedRow (columns.map readColumn) (rereadRow columns row) = storedRow columns row := by
  induction columns generalizing row with
  | nil => rfl
  | cons c cs ih =>
    cases row with
    | nil => rfl
    | cons cell row =>
      have first : (storedCell (reread c.type.affinity cell)).store (readColumn c).type.affinity
          = (storedCell cell).store c.type.affinity := by
        rw [readColumn, ColumnType.affinity_ofAffinity, (cell_reread ..).2]
      have others := ih row
      simp only [storedRow, rereadRow, List.map_cons, List.zipWith_cons_cons] at others ⊢
      rw [first, others]

/-- What all of a copied table is read as. -/
theorem results_copyTable (name : String) (r : Results) :
    Database.results (copyTable name r.columns r.rows).whole = .ok r.copied := by
  have values : (copyTable name r.columns r.rows).whole.rows = r.rows.map (storedRow r.columns) :=
    values_numbered r.columns 1 r.rows
  have read : (r.rows.map (storedRow r.columns)).mapM (·.mapM Database.cell)
      = .ok (r.rows.map (rereadRow r.columns)) :=
    mapM_map_ok fun row _ => mapM_cell_storedRow r.columns row
  have reported : (copyTable name r.columns r.rows).whole.columns.map
      (fun c => (⟨c.label, Database.reportedType c⟩ : Column)) = r.columns.map readColumn := by
    let report (c : TableColumn) : Column :=
      ⟨c.name, c.declared?.elim (.unknown "") fun type => .ofDeclared type.toList⟩
    have type (c : Column) : report (copyColumn c) = readColumn c := by
      simp [report, copyColumn, readColumn, ColumnType.ofDeclared, Affinity.ofDeclared_name]
    calc (copyTable name r.columns r.rows).whole.columns.map
          (fun c => (⟨c.label, Database.reportedType c⟩ : Column))
        = ((r.columns.map copyColumn).zipIdx.map Prod.fst).map report := by
          simp only [Table.whole, List.map_map]
          rfl
      _ = r.columns.map readColumn := by
          rw [List.zipIdx_map_fst, List.map_map]
          exact List.map_congr_left fun c _ => type c
  rw [Database.results, values, read, ok_bind, reported, pure_ok]
  rfl

/-- A result that was read from a copy is loaded as the result that was copied. -/
theorem Database.load_copied {schema : String} (attachable : IsAttachable schema) {ts : List Table}
    {table : String} {r : Results} {loaded : Database}
    (h : (copyOf schema ts).load schema table r = (.ok (), loaded)) :
    (copyOf schema ts).load schema table r.copied = (.ok (), loaded) := by
  obtain ⟨-, -, widths, -⟩ := load_copyOf attachable h
  refine load_congr h ?_ ?_ ?_
  · simp [Results.copied, copyColumn_readColumn]
  · intro row mem
    obtain ⟨source, listed, rfl⟩ := List.mem_map.mp mem
    simp [Results.copied, rereadRow, widths source listed]
  · simp [Results.copied, storedRow_rereadRow]

end Sql

/-! ## Cells that are kept -/

/-- Whether a type has neither numbers nor truth values nor bytes. -/
def ColumnType.isOther : ColumnType → Bool
  | .smallInt | .integer | .bigInt | .oid | .boolean | .real | .double | .numeric | .bytea => false
  | _ => true

theorem ColumnType.affinity_of_isOther {type : ColumnType} (h : type.isOther = true) :
    type.affinity = .text := by
  cases type <;> first | rfl | cases h

namespace Cell

/-- Whether a cell is of the sort that a column type is for, and is stored there without a loss. -/
def Fits (type : ColumnType) : Cell → Prop
  | .null => True
  | .int _ => type ∈ [.smallInt, .integer, .bigInt, .oid]
  | .bool _ => type = .boolean
  | .float x => type ∈ [.real, .double] ∧ x.isNan = false ∧ x ≠ .zero true
  | .binary _ => type = .bytea
  | .text _ | .dateTime _ | .uuid _ | .json _ | .array _ => type.isOther = true

instance (type : ColumnType) : (c : Cell) → Decidable (c.Fits type)
  | .null => inferInstanceAs (Decidable True)
  | .int _ => inferInstanceAs (Decidable (type ∈ [.smallInt, .integer, .bigInt, .oid]))
  | .bool _ => inferInstanceAs (Decidable (type = .boolean))
  | .float x =>
    inferInstanceAs (Decidable (type ∈ [.real, .double] ∧ x.isNan = false ∧ x ≠ .zero true))
  | .binary _ => inferInstanceAs (Decidable (type = .bytea))
  | .text _ | .dateTime _ | .uuid _ | .json _ | .array _ =>
    inferInstanceAs (Decidable (type.isOther = true))

/-- The cell that a copy has for a cell: truth values are integers, and what is neither a number nor
bytes is its text. -/
def kept : Cell → Cell
  | .null => .null
  | .int i => .int i
  | .bool b => .int (if b then 1 else 0)
  | .float x => .float x
  | .binary bytes => .binary bytes
  | c => .text c.display

end Cell

namespace Sql

theorem reread_of_cell {a : Affinity} {c d : Cell}
    (h : Database.cell ((storedCell c).store a) = .ok d) : reread a c = d := by
  rw [reread, h]

/-- What is stored as a text is read as that text. -/
theorem reread_text {c : Cell} (stored : storedCell c = .text (Text.Utf8.encode c.chars)) :
    reread .text c = .text c.display := by
  apply reread_of_cell
  rw [stored]
  exact cell_encode c.chars

theorem reread_null (a : Affinity) : reread a .null = .null := by cases a <;> rfl

/-- A cell that fits its column is kept. -/
theorem reread_of_fits {type : ColumnType} {c : Cell} (h : c.Fits type) :
    reread type.affinity c = c.kept := by
  cases c with
  | null => exact reread_null _
  | int i =>
    have integers : type.affinity = .integer := by
      simp only [Cell.Fits, List.mem_cons, List.not_mem_nil, or_false] at h
      rcases h with rfl | rfl | rfl | rfl <;> rfl
    rw [integers]
    rfl
  | bool b =>
    cases h
    rfl
  | float x =>
    obtain ⟨h, number, sign⟩ := h
    have reals : type.affinity = .real := by
      simp only [List.mem_cons, List.not_mem_nil, or_false] at h
      rcases h with rfl | rfl <;> rfl
    have value : storedCell (.float x) = .real x := by simp [storedCell, Value.ofReal, number]
    apply reread_of_cell
    rw [reals, value, Value.store_real_real sign]
    rfl
  | binary bytes =>
    cases h
    rfl
  | text | dateTime | uuid | json | array =>
    rw [ColumnType.affinity_of_isOther h]
    exact reread_text rfl

/-- A row whose cells fit their columns is kept. -/
theorem rereadRow_of_fits {columns : List Column} {row : List Cell}
    (width : row.length = columns.length)
    (fits : ∀ p ∈ columns.zip row, p.2.Fits p.1.type) :
    rereadRow columns row = row.map Cell.kept := by
  induction columns generalizing row with
  | nil =>
    cases row with
    | nil => rfl
    | cons => cases width
  | cons c cs ih =>
    cases row with
    | nil => cases width
    | cons cell row =>
      rw [List.zip_cons_cons, List.forall_mem_cons] at fits
      have others := ih (Nat.succ.inj width) fits.2
      simp only [rereadRow, List.zipWith_cons_cons, List.map_cons] at others ⊢
      rw [others, reread_of_fits fits.1]

end Sql

end RowCheck
