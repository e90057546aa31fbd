import RowCheck.Proofs.Text.Digits
import RowCheck.Proofs.Wire.Bytes
import RowCheck.Proofs.Server.Output

/-!
# Times and intervals read back

The clock that is computed from a number of microseconds is the one whose fields the server takes
off one after the other, and the parts of an interval, joined by spaces, are the text that the
server writes part by part.
-/

namespace RowCheck.Server

open Wire (clockChars zoneChars)

/-! ## Clocks -/

namespace ClockFields

theorem significantDigits_eq (width n : Nat) :
    significantDigits width n
      = ((Text.lastDigits width n).reverse.dropWhile (· == '0')).reverse := by
  induction width generalizing n with
  | zero => rfl
  | succ w ih =>
    rw [significantDigits, Text.lastDigits, List.reverse_append]
    split
    · next zero =>
      have last : Text.digit n = '0' := (Text.digit_eq_zero_iff n).2 zero
      rw [ih, last]
      simp
    · next nonzero =>
      have last : Text.digit n ≠ '0' := fun h => nonzero ((Text.digit_eq_zero_iff n).1 h)
      simp [last]

theorem ofMicros_natCast (m : Nat) :
    ofMicros m = ⟨(m / 3600000000 : Nat), (m % 3600000000 / 60000000 : Nat),
      (m % 3600000000 % 60000000 / 1000000 : Nat), (m % 3600000000 % 60000000 % 1000000 : Nat)⟩ :=
  rfl

theorem ofMicros_neg (micros : Int) :
    ofMicros (-micros) = ⟨-(ofMicros micros).hour, -(ofMicros micros).minute,
      -(ofMicros micros).second, -(ofMicros micros).micro⟩ := by
  simp [ofMicros, Int.neg_tdiv, Int.neg_tmod]

/-- The fields without their sign. -/
theorem natAbs_ofMicros (micros : Int) :
    (ofMicros micros).hour.natAbs = micros.natAbs / 3600000000 ∧
      (ofMicros micros).minute.natAbs = micros.natAbs / 60000000 % 60 ∧
      (ofMicros micros).second.natAbs = micros.natAbs / 1000000 % 60 ∧
      (ofMicros micros).micro.natAbs = micros.natAbs % 1000000 := by
  rcases Int.natAbs_eq micros with h | h <;> rw [h]
  · rw [ofMicros_natCast]
    refine ⟨?_, ?_, ?_, ?_⟩ <;> simp only [Int.natAbs_natCast] <;> omega
  · rw [ofMicros_neg, ofMicros_natCast]
    refine ⟨?_, ?_, ?_, ?_⟩ <;> simp only [Int.natAbs_neg, Int.natAbs_natCast] <;> omega

theorem ofMicros_lt_zero_iff (micros : Int) :
    ((ofMicros micros).hour < 0 ∨ (ofMicros micros).minute < 0 ∨ (ofMicros micros).second < 0
      ∨ (ofMicros micros).micro < 0) ↔ micros < 0 := by
  rcases Int.natAbs_eq micros with h | h <;> rw [h]
  · rw [ofMicros_natCast]
    dsimp only
    omega
  · rw [ofMicros_neg, ofMicros_natCast]
    dsimp only
    omega

theorem ofMicros_ne_zero_iff (micros : Int) :
    ((ofMicros micros).hour ≠ 0 ∨ (ofMicros micros).minute ≠ 0 ∨ (ofMicros micros).second ≠ 0
      ∨ (ofMicros micros).micro ≠ 0) ↔ micros ≠ 0 := by
  obtain ⟨hour, minute, second, micro⟩ := natAbs_ofMicros micros
  omega

/-- The clock of a number of microseconds is the server's text of its fields. -/
theorem text_ofMicros (micros : Int) : (ofMicros micros).text = clockChars micros.natAbs := by
  obtain ⟨hour, minute, second, micro⟩ := natAbs_ofMicros micros
  have none : (ofMicros micros).micro = 0 ↔ micros.natAbs % 1000000 = 0 := by omega
  have places : Text.padded 6 (micros.natAbs % 1000000)
      = Text.lastDigits 6 (micros.natAbs % 1000000) :=
    Text.padded_eq_lastDigits (by omega) (Nat.mod_lt _ (by decide))
  rw [text, clockChars, hour, minute, second, micro, places, significantDigits_eq]
  simp only [none]

end ClockFields

theorem zoneChars_eq (west : Int32) : zoneChars west = zoneText west.toInt := by
  have hours : west.toInt.natAbs / 60 / 60 = west.toInt.natAbs / 3600 := by omega
  have minutes : west.toInt.natAbs / 60 - west.toInt.natAbs / 3600 * 60
      = west.toInt.natAbs / 60 % 60 := by omega
  have seconds : west.toInt.natAbs - west.toInt.natAbs / 60 * 60 = west.toInt.natAbs % 60 := by
    omega
  simp only [zoneText, zoneChars, hours, minutes, seconds]

/-- A count that fits into the field of a time is read back from it. -/
theorem toInt_ofNat_micros {micros : Nat} (h : micros < 0x8000000000000000) :
    (Int64.ofNat (micros % pow2 (8 * 8))).toInt = micros := by
  rw [Nat.mod_eq_of_lt (Nat.lt_trans h (by decide))]
  exact Int64.toInt_ofNat_of_lt h

theorem readTime?_bytesOf {micros : Nat} (h : micros < 0x8000000000000000) :
    Wire.readTime? (Wire.bytesOf 8 micros) = some (clockChars micros) := by
  rw [Wire.readTime?, Wire.field?_bytesOf_nil, Option.bind_eq_bind, Option.bind_some,
    toInt_ofNat_micros h]
  rfl

theorem readTimeTz?_bytesOf {micros : Nat} (h : micros < 0x8000000000000000) (west : Int32) :
    Wire.readTimeTz? (Wire.bytesOf 8 micros ++ Wire.bytesOf 4 west.toUInt32.toNat)
      = some (clockChars micros ++ zoneChars west) := by
  have zone : west.toUInt32.toNat % pow2 (8 * 4) = west.toUInt32.toNat :=
    Nat.mod_eq_of_lt west.toUInt32.toNat_lt
  rw [Wire.readTimeTz?, Wire.field?_bytesOf, Wire.field?_bytesOf_append (by omega),
    Wire.field?_bytesOf_nil, zone, Option.bind_eq_bind, Option.bind_some, Option.bind_some,
    Wire.int32_ofNat_toNat, toInt_ofNat_micros h]
  rfl

theorem TimeOfDay.text_eq (t : TimeOfDay) : t.text = clockChars t.micros := by
  rw [TimeOfDay.text, ClockFields.text_ofMicros, Int.natAbs_natCast]

theorem TimeOfDay.readTime? (t : TimeOfDay) :
    Wire.readTime? (Wire.bytesOf 8 t.micros) = some t.text := by
  rw [readTime?_bytesOf (Nat.lt_of_le_of_lt t.le_day (by decide)), t.text_eq]

theorem TimeOfDay.readTimeTz? (t : TimeOfDay) (west : Int32) :
    Wire.readTimeTz? (Wire.bytesOf 8 t.micros ++ Wire.bytesOf 4 west.toUInt32.toNat)
      = some (t.text ++ zoneText west.toInt) := by
  rw [readTimeTz?_bytesOf (Nat.lt_of_le_of_lt t.le_day (by decide)), t.text_eq, zoneChars_eq]

/-! ## Intervals -/

namespace IntervalText

open Wire.Interval (Part countPart clockPart signed)

/-- Writes a part whose own text is known. -/
def addPart (t : IntervalText) (p : Part) : IntervalText where
  chars := t.chars ++ (if t.isZero then [] else [' '])
    ++ if t.isBefore ∧ 0 ≤ p.value then '+' :: p.chars else p.chars
  isZero := false
  isBefore := decide (p.value < 0)

theorem addUnits_eq (t : IntervalText) (value : Int) (unit : String) :
    t.addUnits value unit = (countPart value unit).foldl addPart t := by
  rw [addUnits, countPart]
  split
  · rfl
  · next nonzero =>
    have positive : 0 < value ↔ 0 ≤ value := by omega
    by_cases shown : t.isBefore = true ∧ 0 ≤ value <;> simp [addPart, positive, shown]

/-- Parts that are written one after the other stand between spaces. -/
theorem chars_foldl_addPart (t : IntervalText) (p : Part) (ps : List Part) :
    ((p :: ps).foldl addPart t).chars = t.chars ++ (if t.isZero then [] else [' '])
      ++ [' '].intercalate (signed t.isBefore (p :: ps)) := by
  induction ps generalizing t p with
  | nil => simp [addPart, signed]
  | cons q qs ih =>
    rw [List.foldl_cons, ih]
    simp only [signed, List.intercalate_cons_cons]
    simp [addPart]

theorem isZero_foldl_addPart (t : IntervalText) (ps : List Part) :
    (ps.foldl addPart t).isZero = (t.isZero && ps.isEmpty) := by
  induction ps generalizing t with
  | nil => simp
  | cons p ps ih => rw [List.foldl_cons, ih]; simp [addPart]

/-- The clock is written as a last part. Behind nothing it shows no plus sign. -/
theorem addClock_eq {t : IntervalText} {others : List Part} (micros : Int)
    (zero : t.isZero = others.isEmpty) (first : t.isZero = true → t.isBefore = false) :
    t.addClock (.ofMicros micros) = ((clockPart micros others).foldl addPart t).chars := by
  have positive : 0 ≤ micros ↔ ¬ micros < 0 := by omega
  simp only [addClock, ClockFields.ofMicros_ne_zero_iff, ClockFields.ofMicros_lt_zero_iff,
    ClockFields.text_ofMicros, clockPart, ← zero]
  by_cases written : t.isZero = true
  · by_cases negative : micros < 0 <;> simp [addPart, written, first written, negative]
  · by_cases none : micros = 0
    · simp [none, written]
    · by_cases negative : micros < 0 <;> by_cases before : t.isBefore = true <;>
        simp [addPart, none, written, negative, positive, before]

/-- The parts of an interval in front of its clock. -/
def unitParts (v : Wire.Interval) : List Part :=
  countPart (v.months.toInt.tdiv 12) "year" ++ countPart (v.months.toInt.tmod 12) "mon"
    ++ countPart v.days.toInt "day"

theorem ofUnits_eq (v : Wire.Interval) : ofUnits v = (unitParts v).foldl addPart start := by
  rw [ofUnits, unitParts, addUnits_eq, addUnits_eq, addUnits_eq, List.foldl_append,
    List.foldl_append]

theorem isZero_ofUnits (v : Wire.Interval) : (ofUnits v).isZero = (unitParts v).isEmpty := by
  rw [ofUnits_eq, isZero_foldl_addPart]
  rfl

theorem isBefore_ofUnits {v : Wire.Interval} (h : (ofUnits v).isZero = true) :
    (ofUnits v).isBefore = false := by
  rw [isZero_ofUnits, List.isEmpty_iff] at h
  rw [ofUnits_eq, h]
  rfl

end IntervalText

/-- The parts of an interval between spaces are what the server writes. -/
theorem chars_eq_intervalText (v : FiniteInterval) : v.value.chars = intervalText v.value := by
  have parts : v.value.parts = IntervalText.unitParts v.value
      ++ Wire.Interval.clockPart v.value.micros.toInt (IntervalText.unitParts v.value) := rfl
  rw [intervalText, if_neg v.ne_endless, if_neg v.ne_beginningless,
    IntervalText.addClock_eq _ (IntervalText.isZero_ofUnits _) IntervalText.isBefore_ofUnits,
    IntervalText.ofUnits_eq, ← List.foldl_append, ← parts, Wire.Interval.chars]
  cases written : v.value.parts with
  | nil =>
    rw [parts, List.append_eq_nil_iff] at written
    simp [written.1, Wire.Interval.clockPart] at written
  | cons p ps =>
    rw [IntervalText.chars_foldl_addPart]
    rfl

/-- The fields of an interval are read back from its binary form. -/
theorem read?_bytes_interval (v : Wire.Interval) : Wire.Interval.read? v.bytes = some v := by
  have micros : v.micros.toUInt64.toNat % pow2 (8 * 8) = v.micros.toUInt64.toNat :=
    Nat.mod_eq_of_lt v.micros.toUInt64.toNat_lt
  have days : v.days.toUInt32.toNat % pow2 (8 * 4) = v.days.toUInt32.toNat :=
    Nat.mod_eq_of_lt v.days.toUInt32.toNat_lt
  have months : v.months.toUInt32.toNat % pow2 (8 * 4) = v.months.toUInt32.toNat :=
    Nat.mod_eq_of_lt v.months.toUInt32.toNat_lt
  rw [Wire.Interval.read?, Wire.Interval.bytes, List.append_assoc, Wire.field?_bytesOf,
    Wire.field?_bytesOf_append (by omega), Wire.field?_bytesOf,
    Wire.field?_bytesOf_append (by omega), Wire.field?_bytesOf_append (by omega),
    Wire.field?_bytesOf_nil, micros, days, months]
  simp

end RowCheck.Server
