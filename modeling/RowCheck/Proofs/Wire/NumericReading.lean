import RowCheck.Proofs.Wire.Numeric
import RowCheck.Wire.Value
import Mathlib.Algebra.BigOperators.Fin
import Mathlib.Algebra.Order.Field.Power
import Mathlib.Algebra.Order.Floor.Semifield
import Mathlib.Data.Rat.Floor
import Mathlib.Tactic.Positivity
import Mathlib.Tactic.Ring

/-!
# Decimal numbers taken apart

What the digits of a decimal number spell, for any groups around any weight. The groups in front of
a place are read as one number, which grows by one group from place to place; the text spells such a
number without its last digits, and the sum that the groups denote is that number rounded down. Main
statement: the digits of the text spell the sum, rounded down at the last place that is shown.
-/

namespace RowCheck.Wire.Numeric

/-- The sum that groups of four digits denote. -/
def magnitude (groups : List Nat) (weight : Int) : Rat :=
  ∑ i : Fin groups.length, (groups[i] : Rat) * 10000 ^ (weight - i)

/-- The first groups, read as one number. -/
def leading : List Nat → Nat → Nat
  | [], _ => 0
  | _ :: _, 0 => 0
  | group :: groups, count + 1 => group * 10000 ^ count + leading groups count

variable {groups : List Nat}

/-! ## The groups in front of a place -/

theorem leading_zero (groups : List Nat) : leading groups 0 = 0 := by
  cases groups <;> rfl

theorem leading_succ (groups : List Nat) (count : Nat) :
    leading groups (count + 1) = leading groups count * 10000 + groups.getD count 0 := by
  induction groups generalizing count with
  | nil => simp [leading]
  | cons group groups ih =>
    cases count with
    | zero => simp [leading, leading_zero]
    | succ count =>
      rw [leading, ih, leading, List.getD_cons_succ]
      ring

/-- The number grows by a group at every place, also in front of the first one. -/
theorem leading_add_one (groups : List Nat) (place : Int) :
    leading groups (place + 1).toNat
      = leading groups place.toNat * 10000 + groupAt groups place := by
  rw [groupAt]
  split
  · next inside =>
    rw [Int.toNat_add inside (by decide)]
    exact leading_succ groups place.toNat
  · next outside =>
    rw [Int.toNat_of_nonpos (by omega), Int.toNat_of_nonpos (by omega), leading_zero]

theorem groupAt_lt (bounded : ∀ g ∈ groups, g < 10000) (i : Int) : groupAt groups i < 10000 := by
  rw [groupAt]
  split
  · rw [List.getD_eq_getElem?_getD]
    cases found : groups[i.toNat]? with
    | none => decide
    | some g => exact bounded g (List.mem_of_getElem? found)
  · decide

/-! ## The sum -/

theorem magnitude_nil (weight : Int) : magnitude [] weight = 0 := rfl

theorem magnitude_cons (group : Nat) (groups : List Nat) (weight : Int) :
    magnitude (group :: groups) weight
      = group * 10000 ^ weight + magnitude groups (weight - 1) := by
  have place (i : Nat) : weight - (i + 1 : Nat) = weight - 1 - i := by omega
  simp [magnitude, Fin.sum_univ_succ, ← place]

theorem magnitude_add (groups : List Nat) (weight : Int) (places : Nat) :
    magnitude groups (weight + places) = magnitude groups weight * 10000 ^ places := by
  rw [magnitude, magnitude, Finset.sum_mul]
  apply Finset.sum_congr rfl
  intro i _
  have place : weight + places - i = weight - i + places := by omega
  rw [place, zpow_add₀ (by decide), zpow_natCast, mul_assoc]

theorem magnitude_nonneg (groups : List Nat) (weight : Int) : 0 ≤ magnitude groups weight :=
  Finset.sum_nonneg fun i _ => by positivity

theorem magnitude_lt (bounded : ∀ g ∈ groups, g < 10000) (weight : Int) :
    magnitude groups weight < 10000 ^ (weight + 1) := by
  induction groups generalizing weight with
  | nil =>
    rw [magnitude_nil]
    positivity
  | cons group groups ih =>
    obtain ⟨first, others⟩ := List.forall_mem_cons.mp bounded
    have behind := ih others (weight - 1)
    have digit : (group : Rat) + 1 ≤ 10000 := by exact_mod_cast first
    rw [Int.sub_add_cancel] at behind
    calc magnitude (group :: groups) weight
        = group * 10000 ^ weight + magnitude groups (weight - 1) := magnitude_cons ..
      _ < group * 10000 ^ weight + 10000 ^ weight := by gcongr
      _ = (group + 1) * 10000 ^ weight := by ring
      _ ≤ 10000 * 10000 ^ weight := by gcongr
      _ = 10000 ^ (weight + 1) := by rw [zpow_add_one₀ (by decide), mul_comm]

/-- The sum up to a place, rounded down, consists of the groups in front of it. -/
theorem floor_magnitude (bounded : ∀ g ∈ groups, g < 10000) (place : Int) :
    ⌊magnitude groups (place - 1)⌋₊ = leading groups place.toNat := by
  induction groups generalizing place with
  | nil => simp [magnitude_nil, leading]
  | cons group groups ih =>
    cases places : place.toNat with
    | zero =>
      -- The place lies in front of the first group, and the whole sum is less than one there.
      have below := magnitude_lt bounded (place - 1)
      have front : (10000 : Rat) ^ place ≤ 1 := zpow_le_one_of_nonpos₀ (by decide) (by omega)
      rw [Int.sub_add_cancel] at below
      rw [leading_zero, Nat.floor_eq_zero]
      exact below.trans_le front
    | succ count =>
      obtain rfl : place = count + 1 := by omega
      have whole : (group : Rat) * 10000 ^ (count : Int) = (group * 10000 ^ count : Nat) := by
        push_cast
        rw [zpow_natCast]
      have behind := ih (List.forall_mem_cons.mp bounded).2 count
      rw [Int.toNat_natCast] at behind
      rw [Int.add_sub_cancel, magnitude_cons, whole, add_comm,
        Nat.floor_add_natCast (magnitude_nonneg _ _), behind, leading, Nat.add_comm]

/-! ## The text -/

/-- Digits that spell the groups in front of a place, and the next groups behind them. -/
theorem ofDigits_append_groups (bounded : ∀ g ∈ groups, g < 10000) {front : List Char}
    {place : Int} (spelled : Text.ofDigits front = leading groups place.toNat) (count : Nat) :
    Text.ofDigits
        (front ++ (List.range count).flatMap fun i : Nat =>
          Text.padded 4 (groupAt groups (place + i)))
      = leading groups (place + count).toNat := by
  induction count with
  | zero => simpa using spelled
  | succ count ih =>
    have length : (Text.padded 4 (groupAt groups (place + count))).length = 4 :=
      Text.length_padded_of_lt (by decide) (groupAt_lt bounded _)
    rw [List.range_succ, List.flatMap_append, ← List.append_assoc, Text.ofDigits_append, ih,
      List.flatMap_singleton, length, Text.ofDigits_padded, Int.natCast_succ, ← Int.add_assoc,
      leading_add_one]
    rfl

theorem ofDigits_wholeChars (bounded : ∀ g ∈ groups, g < 10000) (weight : Int) :
    Text.ofDigits (wholeChars groups weight) = leading groups (weight + 1).toNat := by
  rw [wholeChars]
  split
  · rw [Int.toNat_of_nonpos (by omega), leading_zero]
    rfl
  · have first : Text.ofDigits (Text.decimal (groupAt groups 0))
        = leading groups (1 : Int).toNat := by
      have one := leading_add_one groups 0
      rw [Int.toNat_zero, leading_zero, Nat.zero_mul, Nat.zero_add] at one
      rw [Text.ofDigits_decimal, ← one]
      rfl
    have spelled := ofDigits_append_groups bounded first weight.toNat
    simp only [Int.add_comm 1] at spelled
    rw [spelled]
    congr
    omega

theorem length_fractionGroups (bounded : ∀ g ∈ groups, g < 10000) (weight : Int) (scale : Nat) :
    (fractionGroups groups weight scale).length = 4 * (scale / 4 + 1) := by
  have four : ∀ i ∈ List.range (scale / 4 + 1),
      (Text.padded 4 (groupAt groups (weight + 1 + i))).length = 4 :=
    fun i _ => Text.length_padded_of_lt (by decide) (groupAt_lt bounded _)
  rw [fractionGroups, List.length_flatMap, List.map_congr_left four, List.map_const',
    List.length_range, List.sum_replicate, smul_eq_mul, Nat.mul_comm]

/-- The digits of a text are those of its groups without the places that are not shown. -/
theorem ofDigits_chars (bounded : ∀ g ∈ groups, g < 10000) (weight : Int) (scale : Nat) :
    Text.ofDigits (wholeChars groups weight ++ fractionChars groups weight scale)
      = leading groups (weight + 1 + (scale / 4 + 1 : Nat)).toNat
        / pow10 (4 * (scale / 4 + 1) - scale) := by
  have spelled :=
    ofDigits_append_groups bounded (ofDigits_wholeChars bounded weight) (scale / 4 + 1)
  have hidden : ∀ c ∈ (fractionGroups groups weight scale).drop scale, Text.isDigit c = true :=
    fun c mem => isDigit_of_mem_fractionGroups weight scale c (List.mem_of_mem_drop mem)
  have length : ((fractionGroups groups weight scale).drop scale).length
      = 4 * (scale / 4 + 1) - scale := by
    rw [List.length_drop, length_fractionGroups bounded]
  have cut := Text.ofDigits_append_div
    (wholeChars groups weight ++ fractionChars groups weight scale) hidden
  rw [length] at cut
  have whole : fractionChars groups weight scale ++ (fractionGroups groups weight scale).drop scale
      = fractionGroups groups weight scale := by
    rw [fractionChars_eq]
    exact List.take_append_drop _ _
  rw [List.append_assoc, whole] at cut
  rw [← cut, ← spelled]
  rfl

/-- The sum in units of the last place that is shown, rounded down. -/
theorem ofDigits_chars_eq_floor (bounded : ∀ g ∈ groups, g < 10000) (weight : Int) (scale : Nat) :
    Text.ofDigits (wholeChars groups weight ++ fractionChars groups weight scale)
      = ⌊magnitude groups weight * 10 ^ scale⌋₊ := by
  have scaled : magnitude groups weight * 10 ^ scale
      = magnitude groups (weight + 1 + (scale / 4 + 1 : Nat) - 1)
        / (pow10 (4 * (scale / 4 + 1) - scale) : Nat) := by
    have last : weight + 1 + (scale / 4 + 1 : Nat) - 1 = weight + (scale / 4 + 1 : Nat) := by omega
    have power : (pow10 (4 * (scale / 4 + 1) - scale) : Rat) * 10 ^ scale
        = 10000 ^ (scale / 4 + 1) := by
      have digits : 4 * (scale / 4 + 1) - scale + scale = 4 * (scale / 4 + 1) :=
        Nat.sub_add_cancel (by omega)
      rw [pow10, Nat.pow_eq, Nat.cast_pow, Nat.cast_ofNat, ← pow_add, digits, pow_mul]
      norm_num
    rw [last, magnitude_add, ← power, eq_div_iff (Nat.cast_ne_zero.mpr (pow10_pos _).ne')]
    ring
  rw [scaled, Nat.floor_div_natCast, floor_magnitude bounded, ofDigits_chars bounded]

theorem isDigit_of_mem_wholeChars (groups : List Nat) (weight : Int) :
    ∀ c ∈ wholeChars groups weight, Text.isDigit c = true := by
  intro c mem
  rw [wholeChars] at mem
  split at mem
  · rw [List.mem_singleton.mp mem]
    rfl
  · rcases List.mem_append.mp mem with first | others
    · exact Text.isDigit_of_mem_decimal _ c first
    · obtain ⟨i, -, mem⟩ := List.mem_flatMap.mp others
      exact Text.isDigit_of_mem_padded 4 _ c mem

theorem wholeChars_ne_nil (groups : List Nat) (weight : Int) : wholeChars groups weight ≠ [] := by
  rw [wholeChars]
  split
  · exact List.cons_ne_nil _ _
  · exact List.append_ne_nil_of_left_ne_nil (Text.decimal_ne_nil _) _

theorem groupAt_zero_of_head? {g : Nat} (head : g ∈ groups.head?) : groupAt groups 0 = g := by
  obtain ⟨others, rfl⟩ := List.head?_eq_some_iff.mp head
  rfl

/-- Only a single zero starts with a zero, unless the first group is a zero in front of others. -/
theorem wholeChars_eq_zero {weight : Int} (first : weight ≤ 0 ∨ ∃ g ∈ groups.head?, g ≠ 0)
    (zero : (wholeChars groups weight).head? = some '0') : wholeChars groups weight = ['0'] := by
  rw [wholeChars] at zero ⊢
  split
  · rfl
  · next nonneg =>
    have front : (Text.decimal (groupAt groups 0)).head? = some '0' := by
      rw [if_neg nonneg] at zero
      obtain ⟨c, rest, text⟩ := List.exists_cons_of_ne_nil (Text.decimal_ne_nil (groupAt groups 0))
      rw [text] at zero ⊢
      exact zero
    have none : groupAt groups 0 = 0 := (Text.head?_decimal_eq_zero_iff _).mp front
    have last : weight.toNat = 0 := by
      rcases first with le | ⟨g, head, some⟩
      · exact Int.toNat_of_nonpos le
      · rw [groupAt_zero_of_head? head] at none
        exact absurd none some
    rw [none, last, Text.decimal_of_lt (by decide)]
    rfl

theorem groupAt_append_zeros (groups : List Nat) (more : Nat) (i : Int) :
    groupAt (groups ++ List.replicate more 0) i = groupAt groups i := by
  have beyond (k : Nat) : (List.replicate more 0)[k]?.getD 0 = 0 := by
    rw [List.getElem?_replicate]
    split <;> rfl
  rw [groupAt, groupAt, List.getD_eq_getElem?_getD, List.getD_eq_getElem?_getD,
    List.getElem?_append]
  split
  · split
    · rfl
    · next outside =>
      rw [beyond, List.getElem?_eq_none (Nat.le_of_not_lt outside), Option.getD_none]
  · rfl

theorem chars_append_zeros (negative : Bool) (groups : List Nat) (more : Nat) (weight : Int16)
    (scale : Nat) :
    chars (.finite negative (groups ++ List.replicate more 0) weight scale)
      = chars (.finite negative groups weight scale) := by
  simp only [chars, wholeChars, fractionChars_eq, fractionGroups, groupAt_append_zeros]

theorem numeric_bytes {negative : Bool} {weight : Int16} {scale : Nat}
    (count : groups.length < 65536) (bounded : ∀ g ∈ groups, g < 10000) (shown : scale < 65536) :
    numeric (bytes (.finite negative groups weight scale))
      = .ok (.text (String.ofList (chars (.finite negative groups weight scale)))) := by
  have fits : ∀ g ∈ groups, g < 65536 := fun g mem => Nat.lt_trans (bounded g mem) (by decide)
  rw [numeric, read?_bytes count shown fits]
  rfl

/-- A finite number is shown with a sign, a point and the decimal places that it asks for. Its
digits spell the sum of its groups, rounded towards zero at the last of these places. Zeros in
front and behind are not needed: the first are not shown, the others change nothing. -/
theorem digits_exact {weight : Int16} {scale : Nat} (negative : Bool)
    (count : groups.length < 65536) (bounded : ∀ g ∈ groups, g < 10000) (shown : scale < 65536) :
    ∃ whole fraction : List Char,
      numeric (bytes (.finite negative groups weight scale))
        = .ok (.text (String.ofList ((if negative then ['-'] else []) ++ whole
          ++ if scale = 0 then [] else '.' :: fraction))) ∧
      whole ≠ [] ∧ (∀ c ∈ whole ++ fraction, Text.isDigit c = true) ∧ fraction.length = scale ∧
      Text.ofDigits (whole ++ fraction) = ⌊magnitude groups weight.toInt * 10 ^ scale⌋₊ ∧
      (weight ≤ 0 ∨ (∃ g ∈ groups.head?, g ≠ 0) → whole.head? = some '0' → whole = ['0']) ∧
      ∀ more, groups.length + more < 65536 →
        numeric (bytes (.finite negative (groups ++ List.replicate more 0) weight scale))
          = numeric (bytes (.finite negative groups weight scale)) := by
  refine ⟨wholeChars groups weight.toInt, fractionChars groups weight.toInt scale,
    numeric_bytes count bounded shown, wholeChars_ne_nil _ _, ?_, length_fractionChars _ _ _,
    ofDigits_chars_eq_floor bounded _ _, ?_, ?_⟩
  · intro c mem
    rcases List.mem_append.mp mem with whole | fraction
    · exact isDigit_of_mem_wholeChars _ _ c whole
    · exact isDigit_of_mem_fractionChars _ _ _ c fraction
  · intro first
    apply wholeChars_eq_zero
    exact first.imp_left Int16.le_iff_toInt_le.mp
  · intro more fits
    have bounded' : ∀ g ∈ groups ++ List.replicate more 0, g < 10000 := by
      intro g mem
      rcases List.mem_append.mp mem with front | zero
      · exact bounded g front
      · rw [List.eq_of_mem_replicate zero]
        decide
    have count' : (groups ++ List.replicate more 0).length < 65536 := by
      rwa [List.length_append, List.length_replicate]
    rw [numeric_bytes count' bounded' shown, numeric_bytes count bounded shown, chars_append_zeros]

/-- A group behind another one is filled up with zeros, and the last one is cut. -/
theorem digits_of_cutGroup :
    [12, 34, 5678].length < 65536 ∧ (∀ g ∈ [12, 34, 5678], g < 10000) ∧ 3 < 65536 ∧
      numeric (bytes (.finite true [12, 34, 5678] 1 3)) = .ok (.text "-120034.567") ∧
      ⌊magnitude [12, 34, 5678] 1 * 10 ^ 3⌋₊ = 120034567 := by
  have bounded : ∀ g ∈ [12, 34, 5678], g < 10000 := by decide
  have text : chars (.finite true [12, 34, 5678] 1 3)
      = ['-'] ++ "120034".toList ++ ".567".toList := by decide +kernel
  have shown : numeric (bytes (.finite true [12, 34, 5678] 1 3)) = .ok (.text "-120034.567") := by
    rw [numeric_bytes (by decide) bounded (by decide), text]
    rfl
  obtain ⟨whole, fraction, cell, -, -, places, value, -⟩ :=
    @digits_exact [12, 34, 5678] 1 3 true (by decide) bounded (by decide)
  rw [numeric_bytes (by decide) bounded (by decide), Except.ok.injEq, Cell.text.injEq,
    String.ofList_inj, text] at cell
  obtain ⟨front, back⟩ := List.append_inj' cell (congrArg (· + 1) places.symm)
  obtain rfl : "120034".toList = whole := List.append_cancel_left front
  obtain rfl : "567".toList = fraction := (List.cons.inj back).2
  exact ⟨by decide, bounded, by decide, shown, value.symm⟩

end RowCheck.Wire.Numeric
