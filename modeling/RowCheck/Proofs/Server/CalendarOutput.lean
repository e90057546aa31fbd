import RowCheck.Proofs.Wire.CalendarReading

/-!
# Days as the server shows them

The days and the points in time that the server can hold, each with its binary form and the text by
which the server shows it. The server counts years without a sign and without a year 0: the year
before the first one is the first one before Christ, which is said behind everything else. Main
statement: a value is shown with the server's own text exactly if its year is one of 1 to 9999, and
in all other years everything but the year is.
-/

namespace RowCheck.Server

open Wire (Date decode)

/-! ## Values -/

/-- A day that the server can hold: the first one is a day of November 4714 BC, where its count of
days begins, and the last one ends the year 5874897. -/
structure DayValue where
  date : Date
  valid : date.IsValid
  le_dayNumber : -2451545 ≤ date.dayNumber
  dayNumber_lt : date.dayNumber < 2145031949

/-- A point in time that the server can hold: the first day is the same, the last one ends the year
294276. -/
structure PointValue where
  date : Date
  time : TimeOfDay
  valid : date.IsValid
  le_dayNumber : -2451545 ≤ date.dayNumber
  dayNumber_lt : date.dayNumber < 106751983
  micros_lt : time.micros < 86400000000

/-- A value of a type with a day. Points in time with a zone are in that of universal time. -/
inductive CalendarValue where
  | date (d : DayValue)
  | timestamp (p : PointValue)
  | timestampTz (p : PointValue)

/-- The microseconds of a point in time, counted from the first of January 2000 on. -/
def PointValue.micros (p : PointValue) : Int := p.date.dayNumber * 86400000000 + p.time.micros

/-- The text of a year. -/
def yearText (year : Int) : List Char :=
  Text.padded 4 (if 0 < year then year else 1 - year).toNat

/-- What stands behind everything else in years before the first one. -/
def eraText (year : Int) : List Char := if 0 < year then [] else " BC".toList

namespace CalendarValue

/-- The type that a value is of. -/
def type : CalendarValue → BuiltIn
  | .date _ => .date
  | .timestamp _ => .timestamp
  | .timestampTz _ => .timestamptz

/-- The day of a value. -/
def day : CalendarValue → Date
  | .date d => d.date
  | .timestamp p | .timestampTz p => p.date

/-- The binary form of a value. -/
def binary : CalendarValue → List UInt8
  | .date d => Wire.bytes32 (.ofInt d.date.dayNumber)
  | .timestamp p | .timestampTz p => Wire.bytes64 (.ofInt p.micros)

/-- The time of day and the zone of a value. -/
def timeText : CalendarValue → List Char
  | .date _ => []
  | .timestamp p => ' ' :: p.time.text
  | .timestampTz p => ' ' :: p.time.text ++ "+00".toList

/-- The text of a value between its year and its era. -/
def restText (v : CalendarValue) : List Char :=
  '-' :: Text.padded 2 v.day.month ++ '-' :: Text.padded 2 v.day.day ++ v.timeText

/-- The server's text of a value. -/
def text (v : CalendarValue) : List Char := yearText v.day.year ++ v.restText ++ eraText v.day.year

end CalendarValue

/-! ## Binary forms -/

theorem DayValue.toInt_dayNumber (d : DayValue) :
    (Int32.ofInt d.date.dayNumber).toInt = d.date.dayNumber := by
  have lower := d.le_dayNumber
  have upper := d.dayNumber_lt
  apply Int32.toInt_ofInt_of_le <;> omega

theorem PointValue.toInt_micros (p : PointValue) : (Int64.ofInt p.micros).toInt = p.micros := by
  have lower := p.le_dayNumber
  have upper := p.dayNumber_lt
  have rest := p.micros_lt
  apply Int64.toInt_ofInt_of_le <;> unfold micros <;> omega

theorem PointValue.micros_ediv (p : PointValue) : p.micros / Wire.dayMicros = p.date.dayNumber := by
  have rest := p.micros_lt
  unfold micros Wire.dayMicros
  omega

theorem PointValue.micros_emod (p : PointValue) :
    (p.micros % Wire.dayMicros).toNat = p.time.micros := by
  have rest := p.micros_lt
  unfold micros Wire.dayMicros
  omega

theorem PointValue.timestampChars?_micros (p : PointValue) :
    Wire.timestampChars? p.micros
      = (Wire.dateChars? p.date.dayNumber).map (· ++ ' ' :: p.time.text) := by
  rw [Wire.timestampChars?_eq, p.micros_ediv, p.micros_emod, p.time.text_eq]

namespace CalendarValue

theorem valid (v : CalendarValue) : v.day.IsValid := by
  cases v with
  | date d => exact d.valid
  | timestamp p | timestampTz p => exact p.valid

theorem le_dayNumber (v : CalendarValue) : -2451545 ≤ v.day.dayNumber := by
  cases v with
  | date d => exact d.le_dayNumber
  | timestamp p | timestampTz p => exact p.le_dayNumber

/-- A value is shown as its day, and the rest behind it. -/
theorem decode_binary_eq_instant (v : CalendarValue) :
    decode (.builtIn v.type) (some v.binary)
      = Wire.instant ((Wire.dateChars? v.day.dayNumber).map (· ++ v.timeText)) := by
  cases v with
  | date d =>
    rw [type, binary, Wire.decode_date, d.toInt_dayNumber]
    simp only [timeText, List.append_nil, Option.map_id']
    rfl
  | timestamp p =>
    rw [type, binary, Wire.decode_timestamp, p.toInt_micros, p.timestampChars?_micros]
    rfl
  | timestampTz p =>
    rw [type, binary, Wire.decode_timestampTz, p.toInt_micros, p.timestampChars?_micros,
      Option.map_map]
    simp [timeText, day, Function.comp_def]

/-- The first day that the server can hold is a day of the year that comes 4714 years before the
first one. -/
theorem le_year (v : CalendarValue) : -4713 ≤ v.day.year := by
  have day := v.valid.hasDay.day_le
  have number := v.le_dayNumber
  rw [Wire.Date.dayNumber_eq] at number
  unfold Wire.Date.marchYear at number
  split at number <;> omega

theorem dateChars?_day (v : CalendarValue) :
    Wire.dateChars? v.day.dayNumber
      = if v.day.year ≤ 262142 then some v.day.chars else none := by
  have lower := v.le_year
  have range : v.day.inRange = true ↔ v.day.year ≤ 262142 := by
    rw [Wire.Date.inRange, decide_eq_true_iff]
    omega
  rw [Wire.dateChars?, Wire.Date.ofDayNumber_dayNumber v.valid]
  simp only [range]

/-- What a value is shown as. -/
theorem decode_binary (v : CalendarValue) :
    decode (.builtIn v.type) (some v.binary)
      = if v.day.year ≤ 262142 then
          .ok (.dateTime (String.ofList (Date.yearChars v.day.year ++ v.restText)))
        else .error (.described "value too large to decode") := by
  have text : v.day.chars ++ v.timeText = Date.yearChars v.day.year ++ v.restText := by
    simp [Wire.Date.chars, restText]
  rw [decode_binary_eq_instant, dateChars?_day]
  split
  · rw [Option.map_some, text]
    rfl
  · rfl

/-! ## Years -/

theorem not_mem_timeText (v : CalendarValue) {c : Char} (other : Text.isDigit c = false)
    (marks : c ∉ [' ', ':', '.', '+']) : c ∉ v.timeText := by
  simp only [List.mem_cons, List.not_mem_nil, or_false, not_or] at marks
  obtain ⟨space, colon, point, plus⟩ := marks
  have clock (t : TimeOfDay) : c ∉ t.text := by
    rw [t.text_eq]
    exact (Wire.showsClock_clockChars t.micros).not_mem other colon point
  cases v with
  | date d => exact List.not_mem_nil
  | timestamp p => simp [timeText, space, clock]
  | timestampTz p =>
    have zero : c ≠ '0' := by
      rintro rfl
      cases other
    simp [timeText, space, clock, plus, zero]

theorem not_mem_restText (v : CalendarValue) {c : Char} (other : Text.isDigit c = false)
    (marks : c ∉ ['-', ' ', ':', '.', '+']) : c ∉ v.restText := by
  have digits (n : Nat) : c ∉ Text.padded 2 n := Wire.not_mem_padded other 2 n
  have time := v.not_mem_timeText other (List.not_mem_of_not_mem_cons marks)
  have minus : c ≠ '-' := List.ne_of_not_mem_cons marks
  simp [restText, digits, time, minus]

end CalendarValue

/-- From the first year on to the year 9999 a year is shown in the same way. -/
theorem yearChars_eq {year : Int} (first : 1 ≤ year) (last : year ≤ 9999) :
    Date.yearChars year = yearText year ∧ eraText year = [] := by
  have pos : 0 < year := first
  have value : year.natAbs = year.toNat := by omega
  rw [Date.yearChars, if_neg (by omega), if_neg (by omega), yearText, if_pos pos, eraText,
    if_pos pos, value]
  exact ⟨rfl, rfl⟩

/-- A year of more than four digits is shown with a plus sign in front. -/
theorem yearChars_of_lt {year : Int} (far : 9999 < year) :
    Date.yearChars year = '+' :: yearText year ∧ eraText year = [] := by
  have pos : 0 < year := by omega
  have value : year.natAbs = year.toNat := by omega
  rw [Date.yearChars, if_neg (by omega), if_pos far, yearText, if_pos pos, eraText, if_pos pos,
    value]
  exact ⟨rfl, rfl⟩

theorem yearChars_append_ne_of_lt {year : Int} (far : 9999 < year) (rest : List Char) :
    Date.yearChars year ++ rest ≠ yearText year ++ rest ++ eraText year := by
  obtain ⟨shown, era⟩ := yearChars_of_lt far
  intro same
  have length := congrArg List.length same
  simp [shown, era] at length

/-- Before the first year no era is shown. -/
theorem yearChars_append_ne_of_nonpos {year : Int} (early : year ≤ 0) {rest : List Char}
    (none : 'B' ∉ rest) : Date.yearChars year ++ rest ≠ yearText year ++ rest ++ eraText year := by
  have era : 'B' ∈ eraText year := by
    rw [eraText, if_neg (by omega)]
    decide
  have shown : 'B' ∉ Date.yearChars year := by
    have digits : 'B' ∉ Text.padded 4 year.natAbs := Wire.not_mem_padded rfl 4 _
    rw [Date.yearChars]
    split
    · simp [digits]
    · split <;> simp [digits]
  intro same
  have mem : 'B' ∈ Date.yearChars year ++ rest := same ▸ List.mem_append_right _ era
  rcases List.mem_append.mp mem with year | rest
  · exact shown year
  · exact none rest

theorem CalendarValue.shown_eq_text_iff (v : CalendarValue) :
    Date.yearChars v.day.year ++ v.restText = v.text ↔ 1 ≤ v.day.year ∧ v.day.year ≤ 9999 := by
  constructor
  · intro same
    refine ⟨?_, ?_⟩ <;> apply Decidable.byContradiction <;> intro other
    · have none : 'B' ∉ v.restText := v.not_mem_restText rfl (by decide)
      exact yearChars_append_ne_of_nonpos (by omega) none same
    · exact yearChars_append_ne_of_lt (by omega) _ same
  · rintro ⟨first, last⟩
    obtain ⟨shown, era⟩ := yearChars_eq first last
    rw [text, shown, era, List.append_nil]

/-- A day or a point in time is shown by its year as the calendar counts it, with a sign where that
has not four digits, and by the rest of the server's own text. This is the whole of the server's
text exactly in the years 1 to 9999. -/
theorem CalendarValue.decode_binary_eq_text_iff (v : CalendarValue) :
    decode (.builtIn v.type) (some v.binary)
        = (if v.day.year ≤ 262142 then
            .ok (.dateTime (String.ofList (Date.yearChars v.day.year ++ v.restText)))
          else .error (.described "value too large to decode")) ∧
      (decode (.builtIn v.type) (some v.binary) = .ok (.dateTime (String.ofList v.text)) ↔
        1 ≤ v.day.year ∧ v.day.year ≤ 9999) := by
  refine ⟨v.decode_binary, ?_⟩
  rw [v.decode_binary, ← v.shown_eq_text_iff]
  split
  · rw [Wire.dateTime_inj]
  · next far =>
    refine iff_of_false (by simp) fun same => far ?_
    have near := v.shown_eq_text_iff.mp same
    omega

/-- The first day with a year of five digits. -/
def farDay : CalendarValue :=
  .date ⟨⟨10000, 1, 1⟩, ⟨by decide, by decide, by decide, by decide⟩, by decide, by decide⟩

/-- Noon of the Ides of March in 44 BC. -/
def earlyNoon : CalendarValue :=
  .timestampTz ⟨⟨-43, 3, 15⟩, ⟨43200000000, by decide⟩,
    ⟨by decide, by decide, by decide, by decide⟩, by decide, by decide, by decide⟩

/-- At both ends the server has another text. -/
theorem CalendarValue.texts_of_farDay_and_earlyNoon :
    farDay.text = "10000-01-01".toList ∧
      decode (.builtIn farDay.type) (some farDay.binary) = .ok (.dateTime "+10000-01-01") ∧
      earlyNoon.text = "0044-03-15 12:00:00+00 BC".toList ∧
      decode (.builtIn earlyNoon.type) (some earlyNoon.binary)
        = .ok (.dateTime "-0043-03-15 12:00:00+00") := by
  have farText : Date.yearChars 10000 ++ farDay.restText = "+10000-01-01".toList := by
    decide +kernel
  have earlyText : Date.yearChars (-43) ++ earlyNoon.restText
      = "-0043-03-15 12:00:00+00".toList := by decide +kernel
  refine ⟨by decide +kernel, ?_, by decide +kernel, ?_⟩
  · rw [decode_binary, if_pos (by decide)]
    exact congrArg (fun text => Except.ok (Cell.dateTime (String.ofList text))) farText
  · rw [decode_binary, if_pos (by decide)]
    exact congrArg (fun text => Except.ok (Cell.dateTime (String.ofList text))) earlyText

end RowCheck.Server
