import RowCheck.Proofs.Wire.Numeric
import RowCheck.Proofs.Wire.Clock
import RowCheck.Proofs.Server.Native
import RowCheck.Proofs.Server.Readable

/-!
# Both ways of running a query

A query that is run in the translated way returns cells that are read from binary values, one that
is run in the native way returns the server's own texts. For the same rows both have the same
canonical text.
-/

namespace RowCheck.Server

open Wire (Decoded)

/-! ## Values -/

namespace ValueType

/-- The cell that the translated way makes of a value. -/
def cell : (t : ValueType) → t.Value → Cell
  | .int2, (i : Int16) => .int i.toInt64
  | .int4, (i : Int32) => .int i.toInt64
  | .int8, (i : Int64) => .int i
  | .oid, (n : UInt32) => .int (.ofNat n.toNat)
  | .text, s | .varchar, s | .bpchar, s | .name, s | .enum .., s => .text s
  | .numeric, (x : NumericValue) => .text (String.ofList x.text)
  | .interval, (v : FiniteInterval) => .text (String.ofList (intervalText v.value))
  | .time, (t : TimeOfDay) => .dateTime (String.ofList t.text)
  | .timeTz, ((t, west) : TimeOfDay × Int32) =>
    .dateTime (String.ofList (t.text ++ zoneText west.toInt))

theorem chars_int (i : Int64) : (Cell.int i).chars = Text.intChars i.toInt := rfl

theorem chars_int16 (i : Int16) :
    (Cell.int i.toInt64).chars = (String.ofList (Text.intChars i.toInt)).toList := by
  rw [chars_int, Int16.toInt_toInt64, String.toList_ofList]

theorem chars_int32 (i : Int32) :
    (Cell.int i.toInt64).chars = (String.ofList (Text.intChars i.toInt)).toList := by
  rw [chars_int, Int32.toInt_toInt64, String.toList_ofList]

theorem chars_int64 (i : Int64) :
    (Cell.int i).chars = (String.ofList (Text.intChars i.toInt)).toList := by
  rw [chars_int, String.toList_ofList]

/-- An object number has no sign, although it is kept in a number with one. -/
theorem chars_oid (n : UInt32) :
    (Cell.int (.ofNat n.toNat)).chars = (String.ofList (Text.decimal n.toNat)).toList := by
  have small := n.toNat_lt
  have value : (Int64.ofNat n.toNat).toInt = n.toNat := Int64.toInt_ofNat_of_lt (by omega)
  rw [chars_int, value, String.toList_ofList]
  rfl

/-- A cell shows the server's text of its value. -/
theorem chars_cell (t : ValueType) (v : t.Value) : (t.cell v).chars = (t.shown v).toList := by
  cases t with
  | int2 => exact chars_int16 v
  | int4 => exact chars_int32 v
  | int8 => exact chars_int64 v
  | oid => exact chars_oid v
  | text | varchar | bpchar | name | enum => rfl
  | numeric | interval | time | timeTz => rfl

/-- Every one of the types has a reader. -/
theorem decode_serverType (t : ValueType) (value? : Option (List UInt8)) :
    Wire.decode t.serverType value? =
      match value? with
      | none => .ok .null
      | some raw => Wire.reader t.serverType.columnType raw := by
  cases t <;> rfl

theorem number_bytesOf {width n : Nat} (make : Nat → Cell) (h : n < pow2 (8 * width)) :
    Wire.number width make (Wire.bytesOf width n) = .ok (make n) := by
  rw [Wire.number, Wire.exactly_bytesOf h]
  rfl

theorem int16_bytesOf (i : Int16) :
    Wire.int16 (Wire.bytesOf 2 i.toUInt16.toNat) = .ok (.int i.toInt64) := by
  rw [Wire.int16, number_bytesOf _ i.toUInt16.toNat_lt, Wire.int16_ofNat_toNat]

theorem int32_bytesOf (i : Int32) :
    Wire.int32 (Wire.bytesOf 4 i.toUInt32.toNat) = .ok (.int i.toInt64) := by
  rw [Wire.int32, number_bytesOf _ i.toUInt32.toNat_lt, Wire.int32_ofNat_toNat]

theorem int64_bytesOf (i : Int64) :
    Wire.int64 (Wire.bytesOf 8 i.toUInt64.toNat) = .ok (.int i) := by
  rw [Wire.int64, number_bytesOf _ i.toUInt64.toNat_lt, Wire.int64_ofNat_toNat]

theorem oid_bytesOf (n : UInt32) :
    Wire.oid (Wire.bytesOf 4 n.toNat) = .ok (.int (.ofNat n.toNat)) :=
  number_bytesOf _ n.toNat_lt

theorem own_of_map {read? : Option (List Char)} {text : List Char} (make : String → Cell)
    (h : read? = some text) : Wire.own make read? = .ok (make (String.ofList text)) := by
  rw [h]
  rfl

theorem numeric_binary (x : NumericValue) :
    Wire.numeric x.binary = .ok (.text (String.ofList x.text)) :=
  own_of_map Cell.text (NumericValue.chars_read? x)

theorem interval_bytes (v : FiniteInterval) :
    Wire.interval v.value.bytes = .ok (.text (String.ofList (intervalText v.value))) := by
  have shown : (Wire.Interval.read? v.value.bytes).map Wire.Interval.chars
      = some (intervalText v.value) := by
    rw [read?_bytes_interval, Option.map_some, chars_eq_intervalText]
  exact own_of_map Cell.text shown

theorem time_bytesOf (t : TimeOfDay) :
    Wire.time (Wire.bytesOf 8 t.micros) = .ok (.dateTime (String.ofList t.text)) :=
  own_of_map Cell.dateTime t.readTime?

theorem timeTz_bytesOf (t : TimeOfDay) (west : Int32) :
    Wire.timeTz (Wire.bytesOf 8 t.micros ++ Wire.bytesOf 4 west.toUInt32.toNat)
      = .ok (.dateTime (String.ofList (t.text ++ zoneText west.toInt))) :=
  own_of_map Cell.dateTime (t.readTimeTz? west)

/-- The cell of a value is read from its binary form. -/
theorem decode_binary (t : ValueType) (v : t.Value) :
    Wire.decode t.serverType (some (t.binary v)) = .ok (t.cell v) := by
  rw [decode_serverType]
  cases t with
  | int2 => exact int16_bytesOf v
  | int4 => exact int32_bytesOf v
  | int8 => exact int64_bytesOf v
  | oid => exact oid_bytesOf v
  | text | varchar | bpchar | name | enum => exact Wire.text_ofString v
  | numeric => exact numeric_binary v
  | interval => exact interval_bytes v
  | time => exact time_bytesOf v
  | timeTz => exact timeTz_bytesOf v.1 v.2

end ValueType

/-! ## Rows -/

/-- A column of a query's rows. -/
structure TableColumn where
  label : String
  type : ValueType

/-- A row of values under columns; any of them may be `NULL`. -/
inductive TableRow : List TableColumn → Type where
  | nil : TableRow []
  | cons {column : TableColumn} {columns : List TableColumn} (value? : Option column.type.Value)
      (rest : TableRow columns) : TableRow (column :: columns)

variable {columns : List TableColumn}

/-- How a value is shown, given its text. -/
def shownChars (text? : Option String) : List Char := (text?.getD "NULL").toList

namespace TableRow

/-- The binary values of a row. -/
def binary {columns : List TableColumn} : TableRow columns → List RawValue
  | .nil => []
  | @cons c _ value? rest => value?.map c.type.binary :: rest.binary

/-- The server's texts of a row. -/
def texts {columns : List TableColumn} : TableRow columns → List (Option String)
  | .nil => []
  | @cons c _ value? rest => value?.map c.type.shown :: rest.texts

/-- The cells that the translated way makes of a row. -/
def cells {columns : List TableColumn} : TableRow columns → List Cell
  | .nil => []
  | @cons c _ value? rest => value?.elim .null c.type.cell :: rest.cells

/-- The line of a row: its labels, each with the server's text. -/
def line (r : TableRow columns) : List Char :=
  [';', ' '].intercalate
    (columns.zipWith (fun c text? => c.label.toList ++ '=' :: shownChars text?) r.texts)

@[simp]
theorem length_binary (r : TableRow columns) : r.binary.length = columns.length := by
  induction r with
  | nil => rfl
  | cons value? rest ih => rw [binary, List.length_cons, List.length_cons, ih]

@[simp]
theorem length_texts (r : TableRow columns) : r.texts.length = columns.length := by
  induction r with
  | nil => rfl
  | cons value? rest ih => rw [texts, List.length_cons, List.length_cons, ih]

theorem map_chars_cells (r : TableRow columns) :
    r.cells.map Cell.chars = r.texts.map shownChars := by
  induction r with
  | nil => rfl
  | @cons column columns value? rest ih =>
    rw [cells, texts, List.map_cons, List.map_cons, ih]
    cases value? with
    | none => rfl
    | some v =>
      have shown := column.type.chars_cell v
      simp only [Option.elim_some, Option.map_some, shown]
      rfl

theorem map_chars_texts (r : TableRow columns) :
    (r.texts.map Native.Statement.cell).map Cell.chars = r.texts.map shownChars := by
  rw [List.map_map]
  refine List.map_congr_left fun text? _ => ?_
  cases text? with
  | none => rfl
  | some s => rfl

end TableRow

/-- The server's texts of some rows, one line a row. -/
def tableText (rows : List (TableRow columns)) : String :=
  String.ofList (rows.flatMap fun r => r.line ++ ['\n'])

/-- A result has the server's texts if it has the labels and its cells show the texts. -/
theorem canonical_eq_tableText (type : TableColumn → ColumnType)
    (cellsOf : TableRow columns → List Cell)
    (shown : ∀ r, (cellsOf r).map Cell.chars = r.texts.map shownChars)
    (rows : List (TableRow columns)) :
    (Results.mk (columns.map fun c => ⟨c.label, type c⟩) (rows.map cellsOf)).canonical
      = tableText rows := by
  have line (r : TableRow columns) :
      Results.rowChars (columns.map fun c => ⟨c.label, type c⟩) (cellsOf r) = r.line := by
    have left : (columns.map fun c => (⟨c.label, type c⟩ : Column)).zipWith Results.pairChars
          (cellsOf r)
        = columns.zipWith (fun c chars => c.label.toList ++ '=' :: chars)
          ((cellsOf r).map Cell.chars) := by
      rw [List.zipWith_map_left, List.zipWith_map_right]
      rfl
    rw [Results.rowChars, left, shown, List.zipWith_map_right]
    rfl
  rw [Results.canonical, Results.canonicalChars, List.flatMap_map, tableText]
  simp only [line]

/-! ## The translated way -/

/-- The columns of a query's rows as the client knows them. -/
def typedColumns (columns : List TableColumn) : List Translated.TypedColumn :=
  columns.map fun c => ⟨c.label, c.type.serverType⟩

theorem row_binary (index : Nat) (r : TableRow columns) :
    Translated.row index (typedColumns columns) r.binary = .ok r.cells := by
  induction r generalizing index with
  | nil => rfl
  | @cons column columns value? rest ih =>
    have first : Translated.cell index ⟨column.label, column.type.serverType⟩
        (value?.map column.type.binary) = .ok (value?.elim .null column.type.cell) := by
      cases value? with
      | none => rw [Translated.cell, Option.map_none, ValueType.decode_serverType]; rfl
      | some v => rw [Translated.cell, Option.map_some, ValueType.decode_binary]; rfl
    rw [typedColumns, List.map_cons, TableRow.binary, Translated.row, first, ← typedColumns, ih]
    rfl

theorem mapM_row_binary (rows : List (TableRow columns)) :
    (rows.map TableRow.binary).mapM (Translated.row 0 (typedColumns columns))
      = .ok (rows.map TableRow.cells) := by
  induction rows with
  | nil => rfl
  | cons r rows ih =>
    rw [List.map_cons, List.mapM_cons, row_binary, ih]
    rfl

theorem results_binary (rows : List (TableRow columns)) :
    Translated.results (typedColumns columns) (rows.map TableRow.binary)
      = .ok ⟨columns.map fun c => ⟨c.label, c.type.serverType.columnType⟩,
        rows.map TableRow.cells⟩ := by
  rw [Translated.results, mapM_row_binary, typedColumns, List.map_map]
  rfl

/-- Enums are the only ones of the types that a database adds: the server has to know them. -/
def Script.Knows (script : Script) : ValueType → Prop
  | .enum label n labels => script.type? n = some (.added label n (.enum labels))
  | _ => True

theorem Script.Knows.type? {script : Script} {t : ValueType} (h : script.Knows t) :
    script.type? t.number = some t.serverType := by
  cases t with
  | enum label n labels => exact h
  | _ => rfl

theorem mapM_type? {script : Script} (known : ∀ c ∈ columns, script.Knows c.type) :
    (columns.map fun c => (c.label, c.type.number)).mapM
        (fun column => (script.type? column.2).map (Translated.TypedColumn.mk column.1))
      = some (typedColumns columns) := by
  induction columns with
  | nil => rfl
  | cons c columns ih =>
    have first := (known c (by simp)).type?
    have others := ih fun c hc => known c (by simp [hc])
    rw [List.map_cons, List.mapM_cons, first, others]
    rfl

/-- A statement that neither fails nor meets a hang-up gives what its rows say. -/
theorem Translated.outcome_execute {script : Script} {sql : String} {typed : List TypedColumn}
    (hangup : (script.reply sql).hangup? = none)
    (prepared : (script.reply sql).prepareError? = none)
    (columns : (script.reply sql).columns.mapM
        (fun column => (script.type? column.2).map (TypedColumn.mk column.1)) = some typed)
    (parameters : (script.reply sql).parameters = 0)
    (width : ∀ r ∈ (script.reply sql).rows, r.length = typed.length)
    (executed : (script.reply sql).executeError? = none) :
    (execute script sql).outcome = (results typed (script.reply sql).rows).mapError .error :=
  outcome_of_returns ⟨hangup, prepared, columns, parameters, width, executed⟩

/-! ## Agreement -/

/-- The statement by which the rows are sent as texts. -/
def textStatement (rows : List (TableRow columns)) : Native.Statement :=
  .described (columns.map (·.label)) (rows.map TableRow.texts) (by simp)

/-- A server answers a query with rows, in either way it is asked. -/
structure Script.Answers (script : Script) (sql : String) (rows : List (TableRow columns)) :
    Prop where
  known : ∀ c ∈ columns, script.Knows c.type
  columns_eq : (script.reply sql).columns = columns.map fun c => (c.label, c.type.number)
  rows_eq : (script.reply sql).rows = rows.map TableRow.binary
  parameters_eq : (script.reply sql).parameters = 0
  prepared : (script.reply sql).prepareError? = none
  executed : (script.reply sql).executeError? = none
  answered : (script.reply sql).hangup? = none
  messages_eq : (script.reply sql).messages = (textStatement rows).messages

/-- For the same rows both ways of running a query have the same canonical text, and it is made of
the server's own texts. -/
theorem canonical_translated_eq_native (script : Script) (sql : String)
    (columns : List TableColumn) (rows : List (TableRow columns))
    (answers : script.Answers sql rows) :
    ∃ translated native : Results,
      (Mode.translated.execute script sql).outcome = .ok translated ∧
      (Mode.native.execute script sql).outcome = .ok native ∧
      translated.canonical = native.canonical ∧ native.canonical = tableText rows := by
  have typed := mapM_type? answers.known
  rw [← answers.columns_eq] at typed
  have width : ∀ r ∈ (script.reply sql).rows, r.length = (typedColumns columns).length := by
    rw [answers.rows_eq]
    simp [typedColumns]
  have translated := Translated.outcome_execute answers.answered answers.prepared typed
    answers.parameters_eq width answers.executed
  rw [answers.rows_eq, results_binary] at translated
  have received := Native.receive_statements none [textStatement rows]
  rw [List.flatMap_singleton, ← answers.messages_eq] at received
  have native := Native.outcome_execute received
  rw [Native.results_statements] at native
  have binaryText := canonical_eq_tableText (fun c => c.type.serverType.columnType)
    TableRow.cells TableRow.map_chars_cells rows
  have nativeText := canonical_eq_tableText (fun _ => .text)
    (fun r => r.texts.map Native.Statement.cell) TableRow.map_chars_texts rows
  have kept : Native.Statement.lastResult [textStatement rows]
      = ⟨columns.map fun c => ⟨c.label, .text⟩,
        rows.map fun r => r.texts.map Native.Statement.cell⟩ := by
    simp [Native.Statement.lastResult, textStatement, Native.Statement.result, Native.textColumn]
  rw [kept] at native
  exact ⟨_, _, translated, native, binaryText.trans nativeText.symm, nativeText⟩

/-- A server whose database adds some types and which answers one query with rows. -/
def Script.answering (types : List TypeEntry) (sql : String) (rows : List (TableRow columns)) :
    Script :=
  let reply : Reply := ⟨sql, columns.map fun c => (c.label, c.type.number),
    rows.map TableRow.binary, 0, none, none, none, (textStatement rows).messages, none⟩
  ⟨.trust, types, [reply]⟩

theorem Script.answers_answering (types : List TypeEntry) (sql : String)
    (rows : List (TableRow columns))
    (known : ∀ c ∈ columns, (Script.answering types sql rows).Knows c.type) :
    (Script.answering types sql rows).Answers sql rows := by
  have reply : (Script.answering types sql rows).reply sql
      = ⟨sql, columns.map fun c => (c.label, c.type.number), rows.map TableRow.binary, 0, none,
        none, none, (textStatement rows).messages, none⟩ := by
    simp [Script.reply, Script.answering]
  constructor
  · exact known
  all_goals rw [reply]

/-- A column of a type with signs, one with a scale, one that the database adds, one with days and
a clock of different signs, and one with a zone. -/
def sampleColumns : List TableColumn :=
  [⟨"n", .int2⟩, ⟨"d", .numeric⟩, ⟨"mood", .enum "mood" 16400 ["sad", "ok"]⟩, ⟨"i", .interval⟩,
    ⟨"t", .timeTz⟩]

/-- The number -1000.050. -/
def sampleDecimal : Decimal where
  units := -1000050
  scale := 3
  scale_le := by decide
  units_lt := Nat.lt_of_lt_of_le (by decide : _ < pow10 7) (Text.pow10_le_pow10 (by decide))

/-- Months and a clock that go back, and days forward. -/
def sampleInterval : FiniteInterval := ⟨⟨-1500000, 3, -14⟩, by decide, by decide⟩

/-- A row of values, and one of `NULL`s with a number that is none. -/
def sampleRows : List (TableRow sampleColumns) :=
  [.cons (some (-5 : Int16)) (.cons (some (.finite sampleDecimal)) (.cons (some "ok")
    (.cons (some sampleInterval)
      (.cons (some ((⟨45296500000, by decide⟩, 19800) : TimeOfDay × Int32)) .nil)))),
    .cons none (.cons (some .nan) (.cons none (.cons none (.cons none .nil))))]

/-- A server that answers one query with these rows. -/
def sampleScript : Script :=
  .answering [⟨16400, "mood", "e", ["sad", "ok"], 0, 0⟩] "q" sampleRows

theorem canonical_of_sampleScript :
    sampleScript.Answers "q" sampleRows ∧
    ∃ translated native : Results,
      (Mode.translated.execute sampleScript "q").outcome = .ok translated ∧
      (Mode.native.execute sampleScript "q").outcome = .ok native ∧
      translated.canonical = native.canonical ∧
      native.canonical
        = "n=-5; d=-1000.050; mood=ok; i=-1 years -2 mons +3 days -00:00:01.5; t=12:34:56.5-05:30\n"
          ++ "n=NULL; d=NaN; mood=NULL; i=NULL; t=NULL\n" := by
  have answers : sampleScript.Answers "q" sampleRows := by
    refine Script.answers_answering _ _ _ fun c hc => ?_
    simp only [sampleColumns, List.mem_cons, List.not_mem_nil, or_false] at hc
    rcases hc with rfl | rfl | rfl | rfl | rfl <;> trivial
  obtain ⟨translated, native, read, kept, same, text⟩ :=
    canonical_translated_eq_native sampleScript "q" sampleColumns sampleRows answers
  refine ⟨answers, translated, native, read, kept, same, text.trans ?_⟩
  decide +kernel

end RowCheck.Server
