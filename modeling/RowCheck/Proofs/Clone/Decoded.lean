import RowCheck.Wire.Value
import RowCheck.Proofs.Sql.Reread

/-!
# Cells that are read from a server

Each reader of binary values makes cells of one sort, whatever bytes it is given. For decimal
numbers these are texts, for all other types they are of the sort that a clone keeps.
-/

namespace RowCheck

namespace Cell

/-- Whether a cell can be what the server's values of a column type are read as. -/
def Decoded (type : ColumnType) (c : Cell) : Prop :=
  c = .null ∨ ∃ raw, Wire.reader type raw = .ok c

/-- Whether a cell is of the sort that values of a column type are read as. -/
def HasSort (type : ColumnType) : Cell → Prop
  | .null => True
  | .int _ => type ∈ [.smallInt, .integer, .bigInt, .oid]
  | .bool _ => type = .boolean
  | .float _ => type ∈ [.real, .double]
  | .binary _ => type = .bytea
  | .text _ => type = .numeric ∨ type.isOther = true
  | .dateTime _ | .uuid _ | .json _ | .array _ => type.isOther = true

end Cell

namespace Wire

variable {α β : Type} {raw : List UInt8} {c : Cell}

theorem number_eq_ok {width : Nat} {cell : Nat → Cell} (h : number width cell raw = .ok c) :
    ∃ n, c = cell n := by
  unfold number at h
  cases read : exactly width "invalid buffer size" raw with
  | error e =>
    rw [read] at h
    cases h
  | ok n =>
    rw [read] at h
    cases h
    exact ⟨n, rfl⟩

theorem own_eq_ok {cell : String → Cell} {read? : Option (List Char)}
    (h : own cell read? = .ok c) : ∃ s, c = cell s := by
  cases read? with
  | none => cases h
  | some cs =>
    cases h
    exact ⟨_, rfl⟩

theorem instant_eq_ok {chars? : Option (List Char)} (h : instant chars? = .ok c) :
    ∃ s, c = .dateTime s := by
  cases chars? with
  | none => cases h
  | some cs =>
    cases h
    exact ⟨_, rfl⟩

theorem boolean_eq_ok (h : boolean raw = .ok c) : ∃ b, c = .bool b := by
  unfold boolean at h
  split at h
  · cases h
    exact ⟨_, rfl⟩
  · cases h

theorem text_eq_ok (h : text raw = .ok c) : ∃ s, c = .text s := by
  unfold text at h
  split at h
  · cases h
    exact ⟨_, rfl⟩
  · cases h

theorem json_eq_ok (h : json raw = .ok c) : ∃ v, c = .json v := by
  unfold json at h
  split at h
  · cases h
    exact ⟨_, rfl⟩
  · cases h

theorem jsonb_eq_ok (h : jsonb raw = .ok c) : ∃ v, c = .json v := by
  unfold jsonb at h
  split at h
  · cases h
  · split at h
    · exact json_eq_ok h
    · cases h

theorem uuid_eq_ok (h : uuid raw = .ok c) : ∃ s, c = .uuid s := by
  unfold uuid at h
  split at h
  · cases h
    exact ⟨_, rfl⟩
  · cases h

/-- What is read as an array is one: every other outcome on the way is an error. -/
theorem array_eq_ok {item : List UInt8 → Decoded Cell} (h : array item raw = .ok c) :
    ∃ cells, c = .array cells := by
  cases first : field? 4 0 raw with
  | none => simp [array, first] at h
  | some dimensions =>
    simp only [array, first] at h
    split at h
    · cases h
    · split at h
      · split at h
        · obtain ⟨size, -, h⟩ := bind_eq_ok h
          split at h
          · cases h
          · obtain ⟨cells, -, h⟩ := bind_eq_ok h
            cases h
            exact ⟨cells, rfl⟩
        · cases h
      · cases h

/-- A value of a column type is read as a cell of the sort for that type. -/
theorem hasSort_of_reader {type : ColumnType} (h : reader type raw = .ok c) : c.HasSort type := by
  cases type with
  | smallInt | integer | bigInt | oid | real | double =>
    obtain ⟨n, rfl⟩ := number_eq_ok h
    simp [Cell.HasSort]
  | numeric =>
    obtain ⟨s, rfl⟩ := own_eq_ok h
    exact .inl rfl
  | interval =>
    obtain ⟨s, rfl⟩ := own_eq_ok h
    exact .inr rfl
  | time | timeTz =>
    obtain ⟨s, rfl⟩ := own_eq_ok h
    rfl
  | date | timestamp | timestampTz =>
    obtain ⟨n, -, h⟩ := bind_eq_ok h
    obtain ⟨s, rfl⟩ := instant_eq_ok h
    rfl
  | boolean =>
    obtain ⟨b, rfl⟩ := boolean_eq_ok h
    rfl
  | bytea =>
    cases h
    rfl
  | json =>
    obtain ⟨v, rfl⟩ := json_eq_ok h
    rfl
  | jsonb =>
    obtain ⟨v, rfl⟩ := jsonb_eq_ok h
    rfl
  | uuid =>
    obtain ⟨s, rfl⟩ := uuid_eq_ok h
    rfl
  | text | varchar | char | unknown =>
    obtain ⟨s, rfl⟩ := text_eq_ok h
    exact .inr rfl
  | array item =>
    cases item with
    | text | smallInt | integer | bigInt | double =>
      obtain ⟨cells, rfl⟩ := array_eq_ok h
      rfl
    | _ =>
      obtain ⟨s, rfl⟩ := text_eq_ok h
      exact .inr rfl

end Wire

theorem Cell.Decoded.hasSort {type : ColumnType} {c : Cell} (h : c.Decoded type) :
    c.HasSort type := by
  rcases h with rfl | ⟨raw, read⟩
  · exact trivial
  · exact Wire.hasSort_of_reader read

/-- A cell of a result that is read in the translated way is such a cell. -/
theorem Cell.decoded_of_decode {type : Server.ServerType} {value? : Option (List UInt8)} {c : Cell}
    (h : Wire.decode type value? = .ok c) : c.Decoded type.columnType := by
  unfold Wire.decode at h
  split at h
  · cases h
  · cases value? with
    | none =>
      cases h
      exact .inl rfl
    | some raw => exact .inr ⟨raw, h⟩

/-- The text of a decimal number is what its bytes are read as. -/
theorem Cell.decoded_numeral {s : String} (raw : List UInt8)
    (h : (Wire.Numeric.read? raw).map Wire.Numeric.chars = some s.toList) :
    (Cell.text s).Decoded .numeric := by
  refine .inr ⟨raw, ?_⟩
  rw [Wire.reader, Wire.numeric, h, Wire.own, String.ofList_toList]

end RowCheck
