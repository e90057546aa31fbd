import Mathlib.Data.List.TakeWhile
import RowCheck.Sql.Value
import RowCheck.Proofs.Text.Digits

/-!
# Integers in numeric columns

The shortest text of an integer of 64 bits is read as that integer, and the server's texts for
special values are no numbers. So these texts look the same after they were stored in a numeric
column.
-/

namespace RowCheck

namespace Sql

/-- ASCII bytes are their own characters. -/
theorem asChars_encode {s : List Char} (h : ∀ c ∈ s, c.toNat < 0x80) :
    Value.asChars (Text.Utf8.encode s) = s := by
  induction s with
  | nil => rfl
  | cons c s ih =>
    rw [List.forall_mem_cons] at h
    have byte : (UInt8.ofNat c.toNat).toNat = c.toNat := by
      rw [UInt8.toNat_ofNat']
      omega
    have front : Text.Utf8.encode (c :: s) = .ofNat c.toNat :: Text.Utf8.encode s := by
      simp [Text.Utf8.encode, Text.Utf8.encodeNat, h.1]
    have rest := ih h.2
    rw [Value.asChars] at rest ⊢
    rw [front, List.map_cons, byte, Char.ofNat_toNat, rest]

/-- Digits are led by neither a space nor a sign. -/
theorem sign_digits {ds : List Char} (h : ∀ c ∈ ds, Text.isDigit c = true) :
    ds.dropWhile isSpace = ds ∧ NumberText.sign ds = (false, ds) := by
  cases ds with
  | nil => exact ⟨rfl, rfl⟩
  | cons d ds =>
    have digit : 48 ≤ d.toNat ∧ d.toNat ≤ 57 := by
      simpa [Text.isDigit] using h d List.mem_cons_self
    have other (c : Char) (low : c.toNat < 48) : d ≠ c := by
      rintro rfl
      omega
    have start : isSpace d = false := by
      simp only [isSpace, Bool.or_eq_false_iff, beq_eq_false_iff_ne, Bool.and_eq_false_iff,
        decide_eq_false_iff_not]
      exact ⟨other ' ' (by decide), by omega⟩
    refine ⟨List.dropWhile_cons_of_neg (by simp [start]), ?_⟩
    unfold NumberText.sign
    split
    · next eq => exact absurd (List.cons.inj eq).1 (other '-' (by decide))
    · next eq => exact absurd (List.cons.inj eq).1 (other '+' (by decide))
    · rfl

/-- Digits behind an optional minus sign are taken apart into that sign and the digits. -/
theorem read_digits {ds : List Char} (h : ∀ c ∈ ds, Text.isDigit c = true) :
    NumberText.read ds = ⟨false, ds, none, none, []⟩
      ∧ NumberText.read ('-' :: ds) = ⟨true, ds, none, none, []⟩ := by
  have taken : ds.takeWhile Text.isDigit = ds := List.takeWhile_eq_self_iff.mpr h
  have dropped : ds.dropWhile Text.isDigit = [] := List.dropWhile_eq_nil_iff.mpr h
  obtain ⟨start, sign⟩ := sign_digits h
  have minus : ('-' :: ds).dropWhile isSpace = '-' :: ds := rfl
  constructor
  · simp only [NumberText.read, start, sign, taken, dropped, List.dropWhile_nil]
  · simp only [NumberText.read, minus, NumberText.sign, taken, dropped, List.dropWhile_nil]

/-- The text of an integer is nothing but that integer. -/
theorem read_intChars (i : Int) :
    (NumberText.read (Text.intChars i)).isComplete = true
      ∧ (NumberText.read (Text.intChars i)).isWhole = true
      ∧ (NumberText.read (Text.intChars i)).wholeValue = i := by
  have complete (negative : Bool) (n : Nat) :
      (⟨negative, Text.decimal n, none, none, []⟩ : NumberText).isComplete = true := by
    simp [NumberText.isComplete, NumberText.hasDigits, NumberText.exponentValid,
      Text.decimal_ne_nil]
  cases i with
  | ofNat n =>
    rw [Text.intChars, (read_digits (Text.isDigit_of_mem_decimal _)).1]
    exact ⟨complete false n, rfl, by simp [NumberText.wholeValue, Text.ofDigits_decimal]⟩
  | negSucc n =>
    rw [Text.intChars, (read_digits (Text.isDigit_of_mem_decimal _)).2]
    refine ⟨complete true (n + 1), rfl, ?_⟩
    simp [NumberText.wholeValue, Text.ofDigits_decimal, Int.negSucc_eq]

theorem toNat_lt_of_mem_intChars {i : Int} : ∀ c ∈ Text.intChars i, c.toNat < 0x80 := by
  have digits {n : Nat} : ∀ c ∈ Text.decimal n, c.toNat < 0x80 := by
    intro c mem
    have digit : 48 ≤ c.toNat ∧ c.toNat ≤ 57 := by
      simpa [Text.isDigit] using Text.isDigit_of_mem_decimal n c mem
    omega
  cases i with
  | ofNat n => exact digits
  | negSucc n =>
    rw [Text.intChars, List.forall_mem_cons]
    exact ⟨by decide, digits⟩

/-- The text of an integer of 64 bits is that integer. -/
theorem numberOfText?_intChars (i : Int64) :
    Value.numberOfText? (Text.Utf8.encode (Text.intChars i.toInt)) = some (.int i) := by
  obtain ⟨complete, whole, value⟩ := read_intChars i.toInt
  have fits : fitsInt64 i.toInt = true := by
    have low := i.le_toInt
    have high := i.toInt_lt
    simp only [fitsInt64, decide_eq_true_eq]
    omega
  rw [Value.numberOfText?, asChars_encode toNat_lt_of_mem_intChars]
  simp [complete, whole, value, fits]

end Sql

end RowCheck
