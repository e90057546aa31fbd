import RowCheck.Proofs.Server.Exchange
import RowCheck.Server.Session

/-!
# Rows that are read by their types

Every value of a row is read by the type of its column, and one that cannot be read fails the whole
result. Whether a type has a reader is looked at before the value is, so a type without one refuses
`NULL` as well. Main statement: a result fails exactly if some value is refused, and `NULL` is
refused only under such a type; everywhere else it is kept.
-/

namespace RowCheck.Server

/-! ## Values that are refused -/

/-- Whether values of a type can be read at all. -/
def ServerType.hasReader (type : ServerType) : Bool :=
  !Wire.isTextual type.columnType || type.isText

/-- There are no readers for the one-byte character and for the types without a column type of their
own, but for those among these whose values are texts. -/
theorem ServerType.hasReader_eq_false_iff (t : ServerType) : t.hasReader = false ↔
    t = .builtIn .char ∨ (∃ name, t.columnType = .unknown name) ∧ t.isText = false := by
  cases t with
  | builtIn t => cases t <;> simp [hasReader, Wire.isTextual, columnType, isText]
  | unread name tag => simp [hasReader, Wire.isTextual, columnType, isText]
  | added name oid kind => simp [hasReader, Wire.isTextual, columnType]

/-- A type refuses a value: it has no reader, whatever the value is, or its reader refuses the bytes
that are sent. -/
inductive ServerType.Refuses (type : ServerType) : RawValue → DecodeFault → Prop where
  | unread (value : RawValue) (unread : type.hasReader = false) :
    Refuses type value (.wrongType type)
  | unfit {raw : List UInt8} {fault : DecodeFault} (read : type.hasReader = true)
      (unfit : Wire.reader type.columnType raw = .error fault) :
    Refuses type (some raw) fault

variable {type : ServerType} {value : RawValue}

theorem decode_of_hasReader (read : type.hasReader = true) (value : RawValue) :
    Wire.decode type value = value.elim (.ok .null) (Wire.reader type.columnType) := by
  have passes : ¬ (Wire.isTextual type.columnType && !type.isText) = true := by
    intro stops
    rw [ServerType.hasReader, ← Bool.not_not type.isText, ← Bool.not_and, stops] at read
    cases read
  rw [Wire.decode.eq_def, if_neg passes]
  cases value <;> rfl

theorem decode_of_not_hasReader (unread : type.hasReader = false) (value : RawValue) :
    Wire.decode type value = .error (.wrongType type) := by
  have stops : (Wire.isTextual type.columnType && !type.isText) = true := by
    simpa [ServerType.hasReader] using unread
  rw [Wire.decode.eq_def, if_pos stops]

theorem decode_eq_error_iff {fault : DecodeFault} :
    Wire.decode type value = .error fault ↔ type.Refuses value fault := by
  constructor
  · intro failed
    cases reads : type.hasReader with
    | false =>
      rw [decode_of_not_hasReader reads] at failed
      cases failed
      exact .unread value reads
    | true =>
      rw [decode_of_hasReader reads] at failed
      cases value with
      | none => cases failed
      | some raw => exact .unfit reads failed
  · intro refused
    cases refused with
    | unread _ unread => exact decode_of_not_hasReader unread value
    | unfit read unfit => exact (decode_of_hasReader read _).trans unfit

/-- What `NULL` is read as. -/
theorem decode_null (type : ServerType) :
    Wire.decode type none = if type.hasReader then .ok .null else .error (.wrongType type) := by
  split
  · next read => exact decode_of_hasReader read none
  · next unread => exact decode_of_not_hasReader (Bool.eq_false_iff.mpr unread) none

/-! ## Rows -/

namespace Translated

variable {columns : List TypedColumn} {values : List RawValue} {rows : List (List RawValue)}
  {e : BackendError}

theorem cell_eq_ok_iff {index : Nat} {column : TypedColumn} {c : Cell} :
    cell index column value = .ok c ↔ Wire.decode column.type value = .ok c := by
  rw [cell]
  cases Wire.decode column.type value <;> simp

theorem cell_eq_error_iff {index : Nat} {column : TypedColumn} :
    cell index column value = .error e ↔ ∃ fault, column.type.Refuses value fault ∧
      e = .undecodable column.label column.type.name (.undecodable index fault) := by
  simp only [← decode_eq_error_iff, cell]
  cases Wire.decode column.type value <;> simp [eq_comm]

/-- A row is read value by value, each under its column and with its number. -/
theorem row_eq_mapM (index : Nat) (columns : List TypedColumn) (values : List RawValue) :
    row index columns values
      = ((columns.zip values).zipIdx index).mapM fun p => cell p.2 p.1.1 p.1.2 := by
  induction columns generalizing index values with
  | nil => rfl
  | cons column columns ih =>
    cases values with
    | nil => rfl
    | cons value values =>
      rw [List.zip_cons_cons, List.zipIdx_cons, List.mapM_cons, row, ih]

/-- A row that is read has the cells of its values, in order. -/
theorem row_eq_ok_iff {index : Nat} {cells : List Cell} :
    row index columns values = .ok cells ↔
      List.Forall₂ (fun p c => Wire.decode p.1.type p.2 = .ok c) (columns.zip values) cells := by
  have unnumbered : columns.zip values = ((columns.zip values).zipIdx index).map Prod.fst :=
    (List.zipIdx_map_fst index _).symm
  rw [unnumbered, List.forall₂_map_left_iff, row_eq_mapM, mapM_eq_ok_iff]
  simp only [cell_eq_ok_iff]

/-- A row fails at its first value that is refused. -/
theorem row_eq_error_iff {index : Nat} : row index columns values = .error e ↔
    ∃ before column value after fault, columns.zip values = before ++ (column, value) :: after ∧
      (∀ p ∈ before, ∃ c, Wire.decode p.1.type p.2 = .ok c) ∧ column.type.Refuses value fault ∧
      e = .undecodable column.label column.type.name
        (.undecodable (index + before.length) fault) := by
  rw [row_eq_mapM, mapM_eq_error_iff]
  constructor
  · rintro ⟨numbered, p, others, cut, read, failed⟩
    obtain ⟨before, behind, split, rfl, rest⟩ := List.zipIdx_eq_append_iff.mp cut
    obtain ⟨⟨column, value⟩, after, rfl, rfl, -⟩ := List.zipIdx_eq_cons_iff.mp rest.symm
    obtain ⟨fault, refused, rfl⟩ := cell_eq_error_iff.mp failed
    refine ⟨before, column, value, after, fault, split, fun p hp => ?_, refused, rfl⟩
    rw [← List.zipIdx_map_fst index before, List.mem_map] at hp
    obtain ⟨q, hq, rfl⟩ := hp
    obtain ⟨c, made⟩ := read q hq
    exact ⟨c, cell_eq_ok_iff.mp made⟩
  · rintro ⟨before, column, value, after, fault, split, read, refused, rfl⟩
    refine ⟨before.zipIdx index, ((column, value), index + before.length),
      after.zipIdx (index + before.length + 1), ?_, fun q hq => ?_,
      cell_eq_error_iff.mpr ⟨fault, refused, rfl⟩⟩
    · rw [split, List.zipIdx_append, List.zipIdx_cons]
    · obtain ⟨c, made⟩ := read q.1 (List.fst_mem_of_mem_zipIdx hq)
      exact ⟨c, cell_eq_ok_iff.mpr made⟩

theorem exists_row_eq_ok_iff {index : Nat} : (∃ cells, row index columns values = .ok cells) ↔
    ∀ p ∈ columns.zip values, ∃ c, Wire.decode p.1.type p.2 = .ok c := by
  simp only [row_eq_ok_iff, ← exists_mapM_eq_ok_iff, mapM_eq_ok_iff]

/-! ## Results -/

/-- The first value that is refused, row by row, and the error that it is reported with. -/
inductive FirstRefused (columns : List TypedColumn) :
    List (List RawValue) → BackendError → Prop where
  | here {values : List RawValue} {rows : List (List RawValue)}
      {before after : List (TypedColumn × RawValue)} {column : TypedColumn} {value : RawValue}
      {fault : DecodeFault} (place : columns.zip values = before ++ (column, value) :: after)
      (sound : ∀ p ∈ before, ∃ c, Wire.decode p.1.type p.2 = .ok c)
      (refused : column.type.Refuses value fault) :
    FirstRefused columns (values :: rows)
      (.undecodable column.label column.type.name (.undecodable before.length fault))
  | later {values : List RawValue} {rows : List (List RawValue)} {e : BackendError}
      (sound : ∀ p ∈ columns.zip values, ∃ c, Wire.decode p.1.type p.2 = .ok c)
      (later : FirstRefused columns rows e) :
    FirstRefused columns (values :: rows) e

theorem firstRefused_cons_iff : FirstRefused columns (values :: rows) e ↔
    row 0 columns values = .error e ∨
      (∃ cells, row 0 columns values = .ok cells) ∧ FirstRefused columns rows e := by
  rw [exists_row_eq_ok_iff, row_eq_error_iff]
  constructor
  · intro first
    cases first with
    | here place sound refused =>
      exact .inl ⟨_, _, _, _, _, place, sound, refused, by rw [Nat.zero_add]⟩
    | later sound later => exact .inr ⟨sound, later⟩
  · rintro (⟨before, column, value, after, fault, place, sound, refused, rfl⟩ | ⟨sound, later⟩)
    · rw [Nat.zero_add]
      exact .here place sound refused
    · exact .later sound later

/-- A result that is made has the described columns and the cells of its rows, in order. -/
theorem results_eq_ok_iff {made : Results} : results columns rows = .ok made ↔
    made.columns = columns.map (fun c => ⟨c.label, c.type.columnType⟩) ∧
      List.Forall₂ (fun values cells => row 0 columns values = .ok cells) rows made.rows := by
  rw [← mapM_eq_ok_iff, results]
  cases rows.mapM (row 0 columns) with
  | error e => simp [bind, Except.bind]
  | ok cells =>
    obtain ⟨labels, lines⟩ := made
    simp [bind, Except.bind, pure, Except.pure, eq_comm]

theorem mapM_row_eq_error_iff :
    rows.mapM (row 0 columns) = .error e ↔ FirstRefused columns rows e := by
  induction rows with
  | nil =>
    constructor
    · intro failed
      cases failed
    · intro first
      cases first
  | cons values rows ih =>
    rw [firstRefused_cons_iff, List.mapM_cons]
    cases row 0 columns values with
    | error broken => simp [bind, Except.bind]
    | ok cells =>
      rw [ok_bind]
      cases others : rows.mapM (row 0 columns) with
      | error broken =>
        rw [others] at ih
        simpa [bind, Except.bind] using ih
      | ok lines =>
        rw [others] at ih
        simpa [bind, Except.bind, pure, Except.pure] using ih

/-- A result fails at the first value that is refused. -/
theorem results_eq_error_iff : results columns rows = .error e ↔ FirstRefused columns rows e := by
  rw [← mapM_row_eq_error_iff, results]
  cases rows.mapM (row 0 columns) <;> simp [bind, Except.bind, pure, Except.pure]

end Translated

/-! ## Statements -/

namespace Translated

variable {script : Script} {sql : String} {columns : List TypedColumn}

theorem outcome_eq_iff {outcome : Except Failure Results}
    (read : ∀ e, outcome ≠ .error (.error (.server e))) :
    (execute script sql).outcome = outcome ↔ ∃ columns, script.Returns sql columns ∧
      (results columns (script.reply sql).rows).mapError .error = outcome := by
  constructor
  · rintro rfl
    by_cases answered : ∃ columns, script.Returns sql columns
    · obtain ⟨columns, returns⟩ := answered
      exact ⟨columns, returns, (outcome_of_returns returns).symm⟩
    · obtain ⟨e, failed⟩ := outcome_of_not_returns (not_exists.mp answered)
      exact absurd failed (read e)
  · rintro ⟨columns, returns, rfl⟩
    exact outcome_of_returns returns

theorem outcome_eq_ok_iff {made : Results} : (execute script sql).outcome = .ok made ↔
    ∃ columns, script.Returns sql columns ∧
      results columns (script.reply sql).rows = .ok made := by
  have read (e : Error) : (.ok made : Except Failure Results) ≠ .error (.error (.server e)) := by
    intro same
    cases same
  simp only [outcome_eq_iff read, mapError_eq_ok_iff]

theorem outcome_eq_undecodable_iff {label name : String} {cause : Error} :
    (execute script sql).outcome = .error (.error (.undecodable label name cause)) ↔
      ∃ columns, script.Returns sql columns ∧
        FirstRefused columns (script.reply sql).rows (.undecodable label name cause) := by
  have read (e : Error) :
      (.error (.error (.undecodable label name cause)) : Except Failure Results)
        ≠ .error (.error (.server e)) := by
    intro same
    cases same
  simp only [outcome_eq_iff read, mapError_eq_error_iff, results_eq_error_iff,
    Failure.error.injEq, exists_eq_right]

end Translated

/-! ## `NULL` -/

namespace Translated

theorem cell_null (index : Nat) (column : TypedColumn) :
    cell index column none
      = if column.type.hasReader then .ok .null
        else .error (.undecodable column.label column.type.name
          (.undecodable index (.wrongType column.type))) := by
  cases read : column.type.hasReader with
  | true => rw [cell, decode_null, if_pos read, if_pos rfl]
  | false =>
    have unread : ¬ column.type.hasReader = true := Bool.eq_false_iff.mp read
    rw [cell, decode_null, if_neg unread, if_neg Bool.false_ne_true]

/-- In a row that is read every `NULL` is kept. -/
theorem null_of_row_eq_ok {columns : List TypedColumn} {values : List RawValue} {cells : List Cell}
    (width : values.length = columns.length) (read : row 0 columns values = .ok cells) :
    List.Forall₂ (fun value c => value = none → c = .null) values cells := by
  have unpaired : values = (columns.zip values).map Prod.snd :=
    (List.map_snd_zip (Nat.le_of_eq width)).symm
  rw [unpaired, List.forall₂_map_left_iff]
  refine (row_eq_ok_iff.mp read).imp fun p c made null => ?_
  rw [null, decode_null] at made
  split at made
  · cases made
    rfl
  · cases made

/-- `NULL` is kept under every type that has a reader, as it is in the native way under all types,
and refused under every other. A query has a result only if no value is refused, and then every
`NULL` is in it; otherwise it reports the first value that is refused. -/
theorem null_kept_iff_hasReader (script : Script) (sql : String) :
    (∀ index column, cell index column none
      = if column.type.hasReader then .ok .null
        else .error (.undecodable column.label column.type.name
          (.undecodable index (.wrongType column.type)))) ∧
    (∀ index, Native.cell index none = .ok .null) ∧
    (∀ made, (execute script sql).outcome = .ok made →
      List.Forall₂ (List.Forall₂ fun value c => value = none → c = .null)
        (script.reply sql).rows made.rows) ∧
    ∀ label name cause,
      (execute script sql).outcome = .error (.error (.undecodable label name cause)) ↔
        ∃ columns, script.Returns sql columns ∧
          FirstRefused columns (script.reply sql).rows (.undecodable label name cause) := by
  refine ⟨cell_null, fun index => rfl, fun made ran => ?_, fun label name cause => ?_⟩
  · obtain ⟨columns, returns, read⟩ := outcome_eq_ok_iff.mp ran
    obtain ⟨-, lines⟩ := results_eq_ok_iff.mp read
    have sized := (List.forall₂_and_left _ _).mpr ⟨returns.width, lines⟩
    exact sized.imp fun values cells read => null_of_row_eq_ok read.1 read.2
  · exact outcome_eq_undecodable_iff

end Translated

/-- A server with a statement whose only value is a `NULL` under a type without a reader. -/
def unreadNullScript : Script :=
  ⟨.trust, [], [⟨"q", [("x", 869)], [[none]], 0, none, none, none,
    [.description ["x"], .row [none], .complete], none⟩]⟩

/-- The same `NULL` is an error in the translated way and kept in the native way. -/
theorem Session.refusal_of_unreadNullScript :
    (execute ⟨unreadNullScript, .translated, .up, .empty⟩ "q").1
        = .error (.error (.undecodable "x" "inet"
          (.undecodable 0 (.wrongType (.unread "inet" "Inet"))))) ∧
      (execute ⟨unreadNullScript, .native, .up, .empty⟩ "q").1
        = .ok ⟨[⟨"x", .text⟩], [[.null]]⟩ := by
  constructor
  · rfl
  · rfl

end RowCheck.Server
