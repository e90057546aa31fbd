import RowCheck.Sql.Connection
import RowCheck.Proofs.Number.Binary64

/-!
# Storing cells and reading them back

A value that a column has stored is stored as it is when it is stored there again, and every cell
that is read from a table stands for the very value that the table holds. So a copy of a copy holds
the values of the copy, whatever conversions were made for the first one.
-/

namespace RowCheck.Sql

namespace Value

/-! ## Storing again -/

theorem integral_cases (x : Binary64) :
    (∃ i, x.toInt? = some i ∧ -0x8000000000000000 < i ∧ i < 0x8000000000000000 - 1
      ∧ integral x = .int (.ofInt i)) ∨ integral x = .real x := by
  unfold integral
  split
  · next i whole =>
    split
    · next within => exact .inl ⟨i, whole, within.1, within.2, rfl⟩
    · exact .inr rfl
  · exact .inr rfl

theorem toNumeric_integral (x : Binary64) : (integral x).toNumeric = integral x := by
  rcases integral_cases x with ⟨i, -, -, -, whole⟩ | stays
  · rw [whole]
    rfl
  · rw [stays, toNumeric, stays]

/-- What the number of a text can be. -/
theorem numberOfText?_cases (bytes : List UInt8) :
    numberOfText? bytes = none ∨ (∃ i, numberOfText? bytes = some (.int i))
      ∨ ∃ x, x.isNan = false ∧ numberOfText? bytes = some (.real x) := by
  unfold numberOfText?
  simp only
  split
  · exact .inl rfl
  · split
    · exact .inr (.inl ⟨_, rfl⟩)
    · exact .inr (.inr ⟨_, Extended.isNan_ofDecimal .., rfl⟩)

theorem toNumeric_toNumeric (v : Value) : v.toNumeric.toNumeric = v.toNumeric := by
  cases v with
  | null => rfl
  | int i => rfl
  | blob bytes => rfl
  | real x => exact toNumeric_integral x
  | text bytes =>
    rcases numberOfText?_cases bytes with none | ⟨i, whole⟩ | ⟨x, -, float⟩
    · simp only [toNumeric, none]
    · simp only [toNumeric, whole]
    · have numeric : (text bytes).toNumeric = integral x := by simp only [toNumeric, float]
      rw [numeric, toNumeric_integral]

/-- A float is stored by an affinity for floats as it is, unless it is the negative zero. -/
theorem store_real_real {x : Binary64} (sign : x ≠ .zero true) :
    (Value.real x).store .real = .real x := by
  have numeric : (Value.real x).toNumeric = integral x := rfl
  rcases integral_cases x with ⟨i, whole, low, high, eq⟩ | stays
  · have back : (Int64.ofInt i).toInt = i := Int64.toInt_ofInt_of_le (by omega) (by omega)
    simp only [store, numeric, eq, back, Binary64.ofInt_of_toInt? whole sign]
  · simp only [store, numeric, stays]

/-- A value that was stored is stored again as it is. -/
theorem store_store (a : Affinity) (v : Value) : (v.store a).store a = v.store a := by
  cases a with
  | blob => rfl
  | text => cases v <;> rfl
  | integer => exact toNumeric_toNumeric v
  | numeric => exact toNumeric_toNumeric v
  | real =>
    have again := toNumeric_toNumeric v
    cases numeric : v.toNumeric with
    | int i =>
      have stored : v.store .real = .real (.ofInt i.toInt) := by simp only [store, numeric]
      rw [stored, store_real_real (Binary64.ofInt_ne_negative_zero _)]
    | _ =>
      rw [numeric] at again
      simp only [store, numeric, again]

/-! ## Values of cells -/

/-- The values that cells stand for: floats that are numbers, and texts that are UTF-8. -/
def IsCell : Value → Prop
  | .real x => x.isNan = false
  | .text bytes => ∃ s, bytes = Text.Utf8.encode s
  | .null | .int _ | .blob _ => True

theorem isCell_integral {x : Binary64} (h : x.isNan = false) : (integral x).IsCell := by
  rcases integral_cases x with ⟨i, -, -, -, whole⟩ | stays
  · rw [whole]
    exact trivial
  · rw [stays]
    exact h

theorem IsCell.toNumeric {v : Value} (h : v.IsCell) : v.toNumeric.IsCell := by
  cases v with
  | null => exact trivial
  | int i => exact trivial
  | blob bytes => exact trivial
  | real x => exact isCell_integral h
  | text bytes =>
    rcases numberOfText?_cases bytes with none | ⟨i, whole⟩ | ⟨x, number, float⟩
    · simpa only [Value.toNumeric, none] using h
    · simp only [Value.toNumeric, whole]
      exact trivial
    · simpa only [Value.toNumeric, float] using isCell_integral number

theorem IsCell.store {v : Value} (h : v.IsCell) (a : Affinity) : (v.store a).IsCell := by
  cases a with
  | blob => exact h
  | text =>
    cases v with
    | int i => exact ⟨_, rfl⟩
    | real x => exact ⟨_, rfl⟩
    | _ => exact h
  | integer => exact h.toNumeric
  | numeric => exact h.toNumeric
  | real =>
    have numeric := h.toNumeric
    unfold Value.store
    simp only
    split
    · exact Binary64.isNan_ofRatio ..
    · exact numeric

end Value

theorem isCell_storedCell (c : Cell) : (storedCell c).IsCell := by
  cases c with
  | null | int | bool | binary => exact trivial
  | float x =>
    cases number : x.isNan with
    | true => simp only [storedCell, Value.ofReal, number, if_true, Value.IsCell]
    | false =>
      rw [storedCell, Value.ofReal, if_neg (by simp [number])]
      exact number
  | _ => exact ⟨_, rfl⟩

theorem storedCell_text (s : String) :
    storedCell (.text s) = .text (Text.Utf8.encode s.toList) :=
  rfl

theorem cell_encode (s : List Char) :
    Database.cell (.text (Text.Utf8.encode s)) = .ok (.text (String.ofList s)) := by
  have read : Text.Utf8.toString (Text.Utf8.encode s) = .ok (String.ofList s) := by
    rw [Text.Utf8.toString, Text.Utf8.decode_encode]
    rfl
  simp only [Database.cell, read]

/-- A value of a table is read as a cell that stands for it. -/
theorem cell_of_isCell {v : Value} (h : v.IsCell) :
    ∃ c, Database.cell v = .ok c ∧ storedCell c = v := by
  cases v with
  | null => exact ⟨.null, rfl, rfl⟩
  | int i => exact ⟨.int i, rfl, rfl⟩
  | blob bytes => exact ⟨.binary bytes, rfl, rfl⟩
  | real x =>
    have number : x.isNan = false := h
    exact ⟨.float x, rfl, by simp [storedCell, Value.ofReal, number]⟩
  | text bytes =>
    obtain ⟨s, rfl⟩ := h
    refine ⟨.text (String.ofList s), cell_encode s, ?_⟩
    rw [storedCell_text, String.toList_ofList]

/-- Reading a stored cell and storing what was read changes nothing. -/
theorem cell_store (a : Affinity) (c : Cell) :
    ∃ d, Database.cell ((storedCell c).store a) = .ok d
      ∧ (storedCell d).store a = (storedCell c).store a := by
  obtain ⟨d, read, stored⟩ := cell_of_isCell ((isCell_storedCell c).store a)
  exact ⟨d, read, by rw [stored, Value.store_store]⟩

end RowCheck.Sql
