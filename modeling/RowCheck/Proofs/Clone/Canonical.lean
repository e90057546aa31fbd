import RowCheck.Proofs.Clone.Decoded
import RowCheck.Proofs.Clone.Tables
import RowCheck.Proofs.Results.Canonical
import RowCheck.Proofs.Sql.NumberText

/-!
# The canonical text of a clone

A clone shows the cells of a server as their source does, with three exceptions. A decimal number is
shown as the engine shows the number that its text is, the engine has no value for what is no
number, and it does not keep the sign of a zero.
-/

namespace RowCheck

namespace Cell

/-- The number that a text becomes in a numeric column, as a cell; a text that is none stays. -/
def ofNumeral (s : String) : Cell :=
  match (Sql.Value.ofString s).toNumeric with
  | .int i => .int i
  | .real x => .float x
  | _ => .text s

/-- The cell that a clone shows for a cell of a server. -/
def onClone (type : ColumnType) : Cell → Cell
  | .float x => if x.isNan then .null else if x = .zero true then .float (.zero false) else .float x
  | .text s => if type = .numeric then ofNumeral s else .text s
  | c => c

/-- Whether a clone shows a cell of a server as it is: a float is a number and not the negative
zero, and a decimal number is a special value, an integer of 64 bits in its shortest spelling, or
spelt as the number that it becomes. -/
def Survives (type : ColumnType) : Cell → Prop
  | .float x => x.isNan = false ∧ x ≠ .zero true
  | .text s => type = .numeric →
    s ∈ ["NaN", "Infinity", "-Infinity"] ∨ (∃ i : Int64, s.toList = Text.intChars i.toInt)
      ∨ (ofNumeral s).chars = s.toList
  | _ => True

end Cell

/-- A result with the cells that a clone shows. -/
def Results.onClone (r : Results) : Results :=
  ⟨r.columns, r.rows.map (r.columns.zipWith fun c cell => cell.onClone c.type)⟩

/-! ## Cells -/

/-- What a clone shows for a float. -/
theorem Cell.onClone_float (type : ColumnType) (x : Binary64) :
    (x.isNan = true ∧ (Cell.float x).onClone type = .null)
      ∨ (x = .zero true ∧ (Cell.float x).onClone type = .float (.zero false))
      ∨ ((Cell.float x).Survives type ∧ (Cell.float x).onClone type = .float x) := by
  by_cases number : x.isNan = true
  · exact .inl ⟨number, if_pos number⟩
  · by_cases sign : x = .zero true
    · exact .inr (.inl ⟨sign, (if_neg number).trans (if_pos sign)⟩)
    · exact .inr (.inr ⟨⟨by simpa using number, sign⟩, (if_neg number).trans (if_neg sign)⟩)

namespace Sql

/-- A decimal number is read from a numeric column as the number that it is. -/
theorem reread_numeric (s : String) : reread .numeric (.text s) = Cell.ofNumeral s := by
  have numeric (v : Value) : v.store .numeric = v.toNumeric := rfl
  have value : Value.ofString s = .text (Text.Utf8.encode s.toList) := rfl
  apply reread_of_cell
  unfold Cell.ofNumeral
  rw [numeric, storedCell_text, value]
  rcases Value.numberOfText?_cases (Text.Utf8.encode s.toList)
    with none | ⟨i, whole⟩ | ⟨x, -, float⟩
  · simp only [Value.toNumeric, none, cell_encode, String.ofList_toList]
  · simp only [Value.toNumeric, whole]
    rfl
  · simp only [Value.toNumeric, float]
    rcases Value.integral_cases x with ⟨i, -, -, -, whole⟩ | stays
    · rw [whole]
      rfl
    · rw [stays]
      rfl

/-- A float is read from a clone as it is, or as the engine's value for it. -/
theorem reread_float {type : ColumnType} (x : Binary64) (h : type ∈ [.real, .double]) :
    reread type.affinity (.float x) = (Cell.float x).onClone type := by
  have reals : type.affinity = .real := by
    simp only [List.mem_cons, List.not_mem_nil, or_false] at h
    rcases h with rfl | rfl <;> rfl
  rcases Cell.onClone_float type x with ⟨number, shown⟩ | ⟨sign, shown⟩ | ⟨survives, shown⟩
  · have stored : storedCell (.float x) = .null := by simp [storedCell, Value.ofReal, number]
    rw [shown, reals]
    apply reread_of_cell
    rw [stored]
    rfl
  · have stored : (storedCell (.float (.zero true))).store .real = .real (.zero false) := by
      decide +kernel
    rw [shown, sign, reals]
    apply reread_of_cell
    rw [stored]
    rfl
  · rw [shown]
    exact reread_of_fits ⟨h, survives⟩

/-- Cells that are kept have their texts in common, except for truth values. -/
theorem chars_kept {c : Cell} (h : ∀ b, c ≠ .bool b) : c.kept.chars = c.chars := by
  have shown (c : Cell) : (Cell.text c.display).chars = c.chars := String.toList_ofList
  cases c with
  | bool b => exact absurd rfl (h b)
  | null | int | float | binary => rfl
  | text | dateTime | uuid | json | array => exact shown _

theorem chars_reread_of_fits {type : ColumnType} {c : Cell} (fits : c.Fits type)
    (h : ∀ b, c ≠ .bool b) : (reread type.affinity c).chars = c.chars := by
  rw [reread_of_fits fits, chars_kept h]

/-- A cell of a server has the same text in a clone as the cell that `onClone` makes of it. -/
theorem chars_reread {type : ColumnType} {c : Cell} (sort : c.HasSort type)
    (h : type ≠ .boolean) : (reread type.affinity c).chars = (c.onClone type).chars := by
  cases c with
  | float x => rw [reread_float x sort]
  | bool b => exact absurd sort h
  | text s =>
    rcases sort with rfl | other
    · have shown : (Cell.text s).onClone .numeric = Cell.ofNumeral s := rfl
      rw [ColumnType.affinity, reread_numeric, shown]
    · have shown : (Cell.text s).onClone type = .text s := by
        apply if_neg
        rintro rfl
        cases other
      rw [shown]
      exact chars_reread_of_fits other (by simp)
  | null | int | binary | dateTime | uuid | json | array =>
    exact chars_reread_of_fits sort (by simp)

/-- The server's words for special values are no numbers. -/
theorem ofNumeral_special {s : String} (h : s ∈ ["NaN", "Infinity", "-Infinity"]) :
    (Cell.ofNumeral s).chars = s.toList := by
  have none : Value.numberOfText? (Text.Utf8.encode s.toList) = none := by
    simp only [List.mem_cons, List.not_mem_nil, or_false] at h
    rcases h with rfl | rfl | rfl <;> decide +kernel
  have stays : (Value.ofString s).toNumeric = .text (Text.Utf8.encode s.toList) := by
    simp only [Value.ofString, Text.Utf8.ofString, Value.toNumeric, none]
  unfold Cell.ofNumeral
  rw [stays]
  rfl

/-- An integer that is spelt without zeros in front is shown as it is spelt. -/
theorem ofNumeral_intChars {s : String} {i : Int64} (h : s.toList = Text.intChars i.toInt) :
    (Cell.ofNumeral s).chars = s.toList := by
  have whole : (Value.ofString s).toNumeric = .int i := by
    simp only [Value.ofString, Text.Utf8.ofString, h, Value.toNumeric, numberOfText?_intChars]
  unfold Cell.ofNumeral
  rw [whole, h]
  rfl

/-- `Survives` says which cells have their own text in a clone. -/
theorem chars_onClone_eq_iff (type : ColumnType) (c : Cell) :
    (c.onClone type).chars = c.chars ↔ c.Survives type := by
  cases c with
  | float x =>
    have layout (x : Binary64) : (Cell.float x).chars = FloatLayout.cell.chars x := rfl
    rcases Cell.onClone_float type x with ⟨number, shown⟩ | ⟨sign, shown⟩ | ⟨survives, shown⟩
    · have view : x.view = .nan := eq_of_beq number
      have null : Cell.null.chars = "NULL".toList := rfl
      rw [shown, null, layout, FloatLayout.chars, view]
      refine iff_of_false (by decide) fun survives => ?_
      rw [survives.1] at number
      cases number
    · have signed : FloatLayout.cell.chars (.zero false) ≠ FloatLayout.cell.chars (.zero true) := by
        decide +kernel
      rw [shown, layout, layout, sign]
      exact iff_of_false signed fun survives => survives.2 rfl
    · rw [shown]
      exact iff_of_true rfl survives
  | text s =>
    by_cases numeric : type = .numeric
    · subst numeric
      constructor
      · exact fun same _ => .inr (.inr same)
      · intro survives
        rcases survives rfl with special | ⟨i, spelt⟩ | same
        · exact ofNumeral_special special
        · exact ofNumeral_intChars spelt
        · exact same
    · have shown : (Cell.text s).onClone type = .text s := if_neg numeric
      rw [shown]
      exact iff_of_true rfl fun h => absurd h numeric
  | _ => exact iff_of_true rfl trivial

end Sql

/-! ## Results -/

namespace Results

theorem zip_map_zipWith (f : Column → Column) (g : Column → Cell → Cell) (columns : List Column)
    (row : List Cell) :
    (columns.map f).zip (columns.zipWith g row)
      = (columns.zip row).map fun p => (f p.1, g p.1 p.2) := by
  induction columns generalizing row with
  | nil => rfl
  | cons c cs ih =>
    cases row with
    | nil => rfl
    | cons cell row => simp only [List.map_cons, List.zipWith_cons_cons, List.zip_cons_cons, ih]

/-- What is shown after every cell has been changed under its column. -/
theorem shown_zipWith {f : Column → Column} (g : Column → Cell → Cell)
    (labels : ∀ c, (f c).label = c.label) (r : Results) :
    shown ⟨r.columns.map f, r.rows.map (r.columns.zipWith g)⟩
      = r.rows.map fun row => (r.columns.zip row).map fun p => (p.1.label, (g p.1 p.2).chars) := by
  simp only [shown, List.map_map, Function.comp_def, zip_map_zipWith, labels]

variable {r : Results}

theorem shown_onClone : r.onClone.shown
    = r.rows.map fun row =>
        (r.columns.zip row).map fun p => (p.1.label, (p.2.onClone p.1.type).chars) := by
  have same := shown_zipWith (f := id) (fun c cell => cell.onClone c.type) (fun _ => rfl) r
  rwa [List.map_id] at same

/-- A copy of a server's result has the text of the cells that a clone shows. -/
theorem canonical_copied (sorts : ∀ row ∈ r.rows, ∀ p ∈ r.columns.zip row, p.2.HasSort p.1.type)
    (h : ∀ c ∈ r.columns, c.type ≠ .boolean) : r.copied.canonical = r.onClone.canonical := by
  have copied : r.copied.shown
      = r.rows.map fun row =>
          (r.columns.zip row).map fun p => (p.1.label, (Sql.reread p.1.type.affinity p.2).chars) :=
    shown_zipWith (f := Sql.readColumn) (fun c cell => Sql.reread c.type.affinity cell)
      (fun _ => rfl) r
  apply canonical_of_shown
  rw [copied, shown_onClone]
  refine List.map_congr_left fun row listed => List.map_congr_left fun p mem => ?_
  have column : p.1 ∈ r.columns := (List.of_mem_zip mem).1
  rw [Sql.chars_reread (sorts row listed p mem) (h p.1 column)]

/-- The text stays as it is if all cells survive. -/
theorem canonical_onClone
    (survives : ∀ row ∈ r.rows, ∀ p ∈ r.columns.zip row, p.2.Survives p.1.type) :
    r.onClone.canonical = r.canonical := by
  apply canonical_of_shown
  rw [shown_onClone, shown]
  refine List.map_congr_left fun row listed => List.map_congr_left fun p mem => ?_
  rw [(Sql.chars_onClone_eq_iff p.1.type p.2).mpr (survives row listed p mem)]

end Results

/-! ## Clones -/

open Sql (copyTable)
open Sql.Database (copyOf)

variable {source after : Connection} {schema : String} {tables : List String}
  {copy : Sql.Connection}

/-- The canonical text of a table in a clone is the one of the source, with the cells that a clone
shows; it is the very text of the source if all cells survive. -/
theorem clone_canonical (cloned : clone source schema tables = (.ok copy, after)) {i : Nat}
    {table : String} (listed : tables[i]? = some table) :
    ∃ r, (source.run (readings schema tables)).1[i]? = some (.ok r)
      ∧ ((∀ c ∈ r.columns, c.type ≠ .boolean) →
        (∀ row ∈ r.rows, ∀ p ∈ r.columns.zip row, p.2.Decoded p.1.type) →
        ∃ read, copy.execute (Sql.selectText schema table) = (.ok read, copy)
          ∧ read.canonical = r.onClone.canonical
          ∧ ((∀ row ∈ r.rows, ∀ p ∈ r.columns.zip row, p.2.Survives p.1.type) →
            read.canonical = r.canonical)) := by
  obtain ⟨r, answer, -, read⟩ := clone_execute cloned listed
  refine ⟨r, answer, fun types decoded => ⟨r.copied, read, ?_⟩⟩
  have text : r.copied.canonical = r.onClone.canonical :=
    Results.canonical_copied (fun row mem p column => (decoded row mem p column).hasSort) types
  exact ⟨text, fun survives => text.trans (Results.canonical_onClone survives)⟩

/-- A result with a decimal number, a float and a time of day. -/
def measuredResult : Results :=
  ⟨[⟨"d", .numeric⟩, ⟨"x", .double⟩, ⟨"at", .time⟩],
    [[.text "1.5", .float (.ofBits 0x3FE0000000000000), .dateTime "12:00:00"],
      [.text "NaN", .null, .null]]⟩

/-- A clone of one table with that result. -/
def measuredClone : Sql.Connection :=
  ⟨copyOf "s" [copyTable "t" measuredResult.columns measuredResult.rows], .clone⟩

theorem measuredClone_canonical :
    ∃ read, measuredClone.execute (Sql.selectText "s" "t") = (.ok read, measuredClone)
      ∧ read.canonical = "d=1.5; x=0.5; at=12:00:00\nd=NaN; x=NULL; at=NULL\n" := by
  have cloned : clone (steadySource measuredResult) "s" ["t"]
      = (.ok measuredClone, (clone (steadySource measuredResult) "s" ["t"]).2) := rfl
  have decimal : (Cell.text "1.5").Decoded .numeric :=
    Cell.decoded_numeral (Wire.Numeric.finite false [1, 5000] 0 1).bytes (by decide +kernel)
  have special : (Cell.text "NaN").Decoded .numeric := .inr ⟨Wire.Numeric.nan.bytes, rfl⟩
  have float : (Cell.float (.ofBits 0x3FE0000000000000)).Decoded .double :=
    .inr ⟨[0x3F, 0xE0, 0, 0, 0, 0, 0, 0], rfl⟩
  have time : (Cell.dateTime "12:00:00").Decoded .time := by
    have noon : Wire.readTime? (Wire.bytesOf 8 43200000000) = some "12:00:00".toList := by
      decide +kernel
    refine .inr ⟨Wire.bytesOf 8 43200000000, ?_⟩
    rw [Wire.reader, Wire.time, noon]
    rfl
  have null (type : ColumnType) : Cell.null.Decoded type := .inl rfl
  have decoded : ∀ row ∈ measuredResult.rows, ∀ p ∈ measuredResult.columns.zip row,
      p.2.Decoded p.1.type := by
    simp only [measuredResult, List.forall_mem_cons, List.zip_cons_cons]
    exact ⟨⟨decimal, float, time, List.forall_mem_nil _⟩,
      ⟨special, null _, null _, List.forall_mem_nil _⟩, List.forall_mem_nil _⟩
  have survives : ∀ row ∈ measuredResult.rows, ∀ p ∈ measuredResult.columns.zip row,
      p.2.Survives p.1.type := by
    have numeral : (Cell.ofNumeral "1.5").chars = "1.5".toList := by decide +kernel
    simp only [measuredResult, List.forall_mem_cons, List.zip_cons_cons]
    exact ⟨⟨fun _ => .inr (.inr numeral), ⟨by decide, by decide⟩, trivial, List.forall_mem_nil _⟩,
      ⟨fun _ => .inl (by decide), trivial, trivial, List.forall_mem_nil _⟩, List.forall_mem_nil _⟩
  obtain ⟨r, answer, text⟩ := clone_canonical cloned (i := 0) rfl
  cases answer
  obtain ⟨read, execute, -, same⟩ := text (by decide) decoded
  exact ⟨read, execute, (same survives).trans (by decide +kernel)⟩

/-- A result with a decimal number of two places, what is no number, and a negative zero. -/
def lossyResult : Results :=
  ⟨[⟨"d", .numeric⟩, ⟨"x", .double⟩, ⟨"z", .double⟩],
    [[.text "1.50", .float (.ofBits 0x7FF8000000000000), .float (.ofBits 0x8000000000000000)]]⟩

/-- A clone of one table with that result. -/
def lossyClone : Sql.Connection :=
  ⟨copyOf "s" [copyTable "t" lossyResult.columns lossyResult.rows], .clone⟩

/-- None of the three cells has its text in a clone, although a server's values are read as them. -/
theorem lossyClone_reads_differently :
    (clone (steadySource lossyResult) "s" ["t"]).1 = .ok lossyClone
      ∧ ((steadySource lossyResult).run (readings "s" ["t"])).1 = [.ok lossyResult]
      ∧ (∀ c ∈ lossyResult.columns, c.type ≠ .boolean)
      ∧ (∀ row ∈ lossyResult.rows, ∀ p ∈ lossyResult.columns.zip row, p.2.Decoded p.1.type)
      ∧ lossyResult.canonical = "d=1.50; x=NaN; z=-0\n"
      ∧ ∃ read, lossyClone.execute (Sql.selectText "s" "t") = (.ok read, lossyClone)
        ∧ read.canonical = "d=1.5; x=NULL; z=0\n" := by
  have decimal : (Cell.text "1.50").Decoded .numeric :=
    Cell.decoded_numeral (Wire.Numeric.finite false [1, 5000] 0 2).bytes (by decide +kernel)
  have none : (Cell.float (.ofBits 0x7FF8000000000000)).Decoded .double :=
    .inr ⟨[0x7F, 0xF8, 0, 0, 0, 0, 0, 0], rfl⟩
  have zero : (Cell.float (.ofBits 0x8000000000000000)).Decoded .double :=
    .inr ⟨[0x80, 0, 0, 0, 0, 0, 0, 0], rfl⟩
  have decoded : ∀ row ∈ lossyResult.rows, ∀ p ∈ lossyResult.columns.zip row,
      p.2.Decoded p.1.type := by
    simp only [lossyResult, List.forall_mem_cons, List.zip_cons_cons]
    exact ⟨⟨decimal, none, zero, List.forall_mem_nil _⟩, List.forall_mem_nil _⟩
  have found : lossyClone.database.tableAt? "s" "t"
      = some ("s", copyTable "t" lossyResult.columns lossyResult.rows) := rfl
  exact ⟨rfl, rfl, by decide, decoded, by decide +kernel, lossyResult.copied,
    execute_copyTable (by decide) found, by decide +kernel⟩

end RowCheck
