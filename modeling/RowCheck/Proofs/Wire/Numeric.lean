import RowCheck.Proofs.Text.Digits
import RowCheck.Proofs.Wire.Bytes
import RowCheck.Proofs.Wire.Fraction
import RowCheck.Proofs.Server.Output
import Mathlib.Data.Nat.Digits.Lemmas

/-!
# Decimal numbers read back

A decimal number is packed into groups of four digits from its last decimal place on. The group at
every place can be computed by dividing the packed number, whichever zeros were left out at its two
ends; from this both halves of the text follow.
-/

namespace RowCheck.Wire.Numeric

/-- The fields of a finite number are read back from its binary form. -/
theorem read?_bytes {negative : Bool} {groups : List Nat} {weight : Int16} {scale : Nat}
    (count : groups.length < 65536) (shown : scale < 65536) (bounded : ∀ g ∈ groups, g < 65536) :
    read? (bytes (.finite negative groups weight scale))
      = some (.finite negative groups weight scale) := by
  have word : pow2 (8 * 2) = 65536 := rfl
  have small := weight.toUInt16.toNat_lt
  have group : ∀ i (hi : i < groups.length),
      field? 2 (8 + 2 * i) (bytes (.finite negative groups weight scale)) = some groups[i] := by
    intro i hi
    have value : groups[i] < 65536 := bounded _ (List.getElem_mem hi)
    simp only [bytes, List.append_assoc]
    rw [field?_bytesOf_append (by omega), field?_bytesOf_append (by omega),
      field?_bytesOf_append (by omega), field?_bytesOf_append (by omega),
      show 8 + 2 * i - 2 - 2 - 2 - 2 = 2 * i by omega, field?_flatMap hi, word,
      Nat.mod_eq_of_lt value]
  have first : field? 2 0 (bytes (.finite negative groups weight scale)) = some groups.length := by
    simp only [bytes, List.append_assoc]
    rw [field?_bytesOf, word, Nat.mod_eq_of_lt count]
  have second : field? 2 2 (bytes (.finite negative groups weight scale))
      = some weight.toUInt16.toNat := by
    simp only [bytes, List.append_assoc]
    rw [field?_bytesOf_append (by omega), field?_bytesOf, word, Nat.mod_eq_of_lt small]
  have third : field? 2 4 (bytes (.finite negative groups weight scale))
      = some (if negative then 0x4000 else 0) := by
    simp only [bytes, List.append_assoc]
    rw [field?_bytesOf_append (by omega), field?_bytesOf_append (by omega), field?_bytesOf, word]
    cases negative <;> rfl
  have fourth : field? 2 6 (bytes (.finite negative groups weight scale)) = some scale := by
    simp only [bytes, List.append_assoc]
    rw [field?_bytesOf_append (by omega), field?_bytesOf_append (by omega),
      field?_bytesOf_append (by omega), field?_bytesOf, word, Nat.mod_eq_of_lt shown]
  rw [read?, first, second, third, fourth]
  cases negative <;> simp [mapM_range_eq_some group]

end RowCheck.Wire.Numeric

namespace RowCheck.Server.Decimal

open Wire.Numeric (groupAt wholeChars fractionChars)

variable (d : Decimal)

theorem pow10_four_mul (k : Nat) : pow10 (4 * k) = 10000 ^ k := by
  simp only [pow10, Nat.pow_eq]
  rw [Nat.pow_mul]

/-- Zeros in front are not needed to find an item from the other end. -/
theorem getD_reverse_dropWhile (digits : List Nat) (j : Nat) :
    (digits.dropWhile (· == 0)).reverse.getD j 0 = digits.reverse.getD j 0 := by
  induction digits with
  | nil => rfl
  | cons x xs ih =>
    by_cases zero : x = 0
    · subst zero
      rw [List.dropWhile_cons_of_pos (by simp), ih, List.reverse_cons]
      simp only [List.getD_eq_getElem?_getD, List.getElem?_append]
      split
      · rfl
      · next beyond =>
        rw [List.getElem?_eq_none (by omega)]
        cases j - xs.reverse.length <;> simp
    · rw [List.dropWhile_cons_of_neg (by simpa using zero)]

/-- The digit of a number at a place, counted from the front. -/
theorem getD_reverse_digits (n j : Nat) :
    (Nat.digits 10000 n).reverse.getD j 0 =
      if j < (Nat.digits 10000 n).length then
        n / pow10 (4 * ((Nat.digits 10000 n).length - 1 - j)) % 10000
      else 0 := by
  rw [List.getD_eq_getElem?_getD]
  split
  · next inside =>
    rw [List.getElem?_reverse inside, ← List.getD_eq_getElem?_getD,
      Nat.getD_digits _ _ (by omega), pow10_four_mul]
  · next outside =>
    rw [List.getElem?_eq_none (by simpa using outside)]
    rfl

theorem aligned_lt : d.aligned < pow10 (4 * d.groupDigits.length) := by
  rw [pow10_four_mul]
  exact Nat.lt_base_pow_length_digits (by omega)

theorem aligned_eq_zero (h : d.units = 0) : d.aligned = 0 := by
  simp [aligned, h]

/-- A group that is sent is what is left of the packed number at its place. The places `e` count
groups from the last decimal place on. -/
theorem groupAt_groups {i : Int} {e : Nat} (h : i + e = d.weight + d.fractionGroups) :
    groupAt d.groups i = d.aligned / pow10 (4 * e) % 10000 := by
  by_cases zero : d.units = 0
  · have none : d.groups = [] := by simp [groups, groupDigits, aligned_eq_zero d zero]
    simp [groupAt, none, aligned_eq_zero d zero]
  · rw [weight, if_neg zero] at h
    by_cases front : i < 0
    · have above : pow10 (4 * d.groupDigits.length) ≤ pow10 (4 * e) :=
        Text.pow10_le_pow10 (by omega)
      rw [groupAt, if_neg (by omega), Nat.div_eq_of_lt (Nat.lt_of_lt_of_le d.aligned_lt above)]
    · rw [groupAt, if_pos (by omega), groups, getD_reverse_dropWhile, groupDigits,
        getD_reverse_digits, if_pos (by rw [← groupDigits]; omega), ← groupDigits,
        show d.groupDigits.length - 1 - i.toNat = e by omega]

/-- Four digits of a group that is sent. -/
theorem padded_groupAt {i : Int} {e : Nat} (h : i + e = d.weight + d.fractionGroups) :
    Text.padded 4 (groupAt d.groups i) = Text.lastDigits 4 (d.aligned / pow10 (4 * e)) := by
  have group : d.aligned / pow10 (4 * e) % 10000 < pow10 4 := Nat.mod_lt _ (by decide)
  rw [groupAt_groups d h, Text.padded_eq_lastDigits (by omega) group]
  exact Text.lastDigits_mod 4 _

theorem scale_le_fractionGroups : d.scale ≤ 4 * d.fractionGroups := by
  unfold fractionGroups
  omega

/-- What stands before the point, in units of one. -/
theorem aligned_div :
    d.aligned / pow10 (4 * d.fractionGroups) = d.units.natAbs / pow10 d.scale := by
  have split : pow10 (4 * d.fractionGroups)
      = pow10 d.scale * pow10 (4 * d.fractionGroups - d.scale) := by
    rw [← pow10_add, Nat.add_sub_cancel' d.scale_le_fractionGroups]
  rw [aligned, split, Nat.mul_div_mul_right _ _ (pow10_pos _)]

theorem aligned_div_add (e : Nat) :
    d.aligned / pow10 (4 * (d.fractionGroups + e))
      = d.units.natAbs / pow10 d.scale / pow10 (4 * e) := by
  rw [← aligned_div, Nat.div_div_eq_div_mul, ← pow10_add, Nat.mul_add]

/-- A number that is not zero has its first group at its weight. -/
theorem le_aligned (h : d.units ≠ 0) : pow10 (4 * (d.groupDigits.length - 1)) ≤ d.aligned := by
  have pos : d.aligned ≠ 0 := by
    have := pow10_pos (4 * d.fractionGroups - d.scale)
    simp only [aligned, ne_eq, Nat.mul_eq_zero]
    omega
  have some : d.groupDigits ≠ [] := Nat.digits_ne_nil_iff_ne_zero.2 pos
  have length := List.length_pos_of_ne_nil some
  rw [pow10_four_mul]
  apply (Nat.lt_digits_length_iff (by omega) _).1
  rw [← groupDigits]
  omega

/-- The first group of a number of at least one is what it has at its weight. -/
theorem groupAt_zero (h : 0 ≤ d.weight) :
    groupAt d.groups 0 = d.units.natAbs / pow10 d.scale / pow10 (4 * d.weight.toNat) := by
  rw [groupAt_groups (e := d.fractionGroups + d.weight.toNat) d (by omega), aligned_div_add]
  apply Nat.mod_eq_of_lt
  by_cases zero : d.units = 0
  · simp [zero]
  · have places : 4 * d.groupDigits.length = 4 * (d.fractionGroups + d.weight.toNat) + 4 := by
      rw [weight, if_neg zero] at h ⊢
      omega
    have below := d.aligned_lt
    rw [places, pow10_add] at below
    rw [← aligned_div_add, Nat.div_lt_iff_lt_mul (pow10_pos _), Nat.mul_comm]
    exact below

/-- The digits before the point are those of the groups from the first one on. -/
theorem decimal_whole (h : 0 ≤ d.weight) :
    Text.decimal (d.units.natAbs / pow10 d.scale) =
      Text.decimal (d.units.natAbs / pow10 d.scale / pow10 (4 * d.weight.toNat))
        ++ Text.lastDigits (4 * d.weight.toNat) (d.units.natAbs / pow10 d.scale) := by
  by_cases first : d.weight.toNat = 0
  · simp [first, Text.lastDigits]
  · have nonzero : d.units ≠ 0 := by
      intro zero
      simp [weight, zero] at first
    have places : 4 * (d.groupDigits.length - 1) = 4 * d.weight.toNat + 4 * d.fractionGroups := by
      rw [weight, if_neg nonzero] at h ⊢
      omega
    apply Text.decimal_eq_append
    rw [← aligned_div, Nat.le_div_iff_mul_le (pow10_pos _), ← pow10_add, ← places]
    exact d.le_aligned nonzero

theorem wholeChars_groups :
    wholeChars d.groups d.weight = Text.decimal (d.units.natAbs / pow10 d.scale) := by
  rw [wholeChars]
  split
  · next below =>
    have nonzero : d.units ≠ 0 := by
      intro zero
      simp [weight, zero] at below
    have short : d.groupDigits.length ≤ d.fractionGroups := by
      rw [weight, if_neg nonzero] at below
      omega
    have above : pow10 (4 * d.groupDigits.length) ≤ pow10 (4 * d.fractionGroups) :=
      Text.pow10_le_pow10 (by omega)
    rw [← aligned_div, Nat.div_eq_of_lt (Nat.lt_of_lt_of_le d.aligned_lt above),
      Text.decimal_of_lt (by omega)]
    rfl
  · next below =>
    have nonneg : 0 ≤ d.weight := by omega
    rw [decimal_whole d nonneg, groupAt_zero d nonneg, Text.lastDigits_groups]
    congr 1
    apply List.flatMap_congr
    intro i hi
    have inside : i < d.weight.toNat := List.mem_range.1 hi
    rw [← aligned_div_add]
    exact padded_groupAt d (by omega)

theorem fractionChars_groups :
    fractionChars d.groups d.weight d.scale = Text.lastDigits d.scale d.units.natAbs := by
  obtain ⟨more, enough⟩ : ∃ more, d.scale / 4 + 1 = d.fractionGroups + more :=
    ⟨d.scale / 4 + 1 - d.fractionGroups, by unfold fractionGroups; omega⟩
  have groups : (List.range d.fractionGroups).flatMap
      (fun i : Nat => Text.padded 4 (groupAt d.groups (d.weight + 1 + i)))
      = Text.lastDigits (4 * d.fractionGroups) d.aligned := by
    rw [Text.lastDigits_groups]
    apply List.flatMap_congr
    intro i hi
    have inside : i < d.fractionGroups := List.mem_range.1 hi
    exact padded_groupAt d (by omega)
  have length := d.scale_le_fractionGroups
  rw [Wire.Numeric.fractionChars_eq, Wire.Numeric.fractionGroups, enough, List.range_add,
    List.flatMap_append, groups, List.take_append_of_le_length (by rwa [Text.length_lastDigits])]
  obtain ⟨back, whole⟩ : ∃ back, 4 * d.fractionGroups = d.scale + back :=
    ⟨4 * d.fractionGroups - d.scale, by omega⟩
  rw [whole, Text.take_lastDigits, aligned, whole, Nat.add_sub_cancel_left,
    Nat.mul_div_cancel _ (pow10_pos _)]

/-! ### Bounds of what is sent -/

theorem fractionGroups_le : d.fractionGroups ≤ 4096 := by
  have := d.scale_le
  unfold fractionGroups
  omega

theorem length_groupDigits_le : d.groupDigits.length ≤ 32768 + d.fractionGroups := by
  have places : 131072 + d.scale + (4 * d.fractionGroups - d.scale)
      = 4 * (32768 + d.fractionGroups) := by
    have := d.scale_le_fractionGroups
    omega
  have bound : d.aligned < pow10 (4 * (32768 + d.fractionGroups)) := by
    rw [← places, pow10_add]
    exact Nat.mul_lt_mul_of_pos_right d.units_lt (pow10_pos _)
  rw [pow10_four_mul] at bound
  exact (Nat.digits_length_le_iff (by omega) _).2 bound

theorem length_groups_lt : d.groups.length < 65536 := by
  have kept : d.groups.length ≤ d.groupDigits.length := by
    rw [groups, List.length_reverse]
    exact (List.dropWhile_sublist _).length_le
  have := d.length_groupDigits_le
  have := d.fractionGroups_le
  omega

theorem groups_lt : ∀ g ∈ d.groups, g < 65536 := by
  intro g hg
  rw [groups, List.mem_reverse] at hg
  have digit : g ∈ d.groupDigits := (List.dropWhile_sublist _).subset hg
  have := Nat.digits_lt_base (by omega) digit
  omega

theorem toInt_weight : (Int16.ofInt d.weight).toInt = d.weight := by
  have := d.length_groupDigits_le
  have := d.fractionGroups_le
  apply Int16.toInt_ofInt_of_le <;> rw [weight] <;> split <;> omega

/-- What is sent is read back. -/
theorem read?_packed : Wire.Numeric.read? d.packed.bytes = some d.packed :=
  Wire.Numeric.read?_bytes d.length_groups_lt (by have := d.scale_le; omega) d.groups_lt

/-- The text of what is sent is the server's text. -/
theorem chars_packed : d.packed.chars = d.text := by
  rw [packed, Wire.Numeric.chars, toInt_weight, wholeChars_groups, fractionChars_groups, text]
  simp

end RowCheck.Server.Decimal

namespace RowCheck.Server.NumericValue

/-- Every decimal number is read with the text by which the server shows it. -/
theorem chars_read? (x : NumericValue) :
    (Wire.Numeric.read? x.binary).map Wire.Numeric.chars = some x.text := by
  cases x with
  | nan => rfl
  | infinity negative => cases negative <;> rfl
  | finite d => rw [binary, d.read?_packed, Option.map_some, d.chars_packed, text]

end RowCheck.Server.NumericValue
