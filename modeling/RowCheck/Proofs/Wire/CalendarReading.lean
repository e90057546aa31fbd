import RowCheck.Proofs.Wire.Calendar
import RowCheck.Proofs.Wire.IntervalReading
import RowCheck.Proofs.Except

/-!
# Dates and points in time taken apart

The text of a point in time as the text of its day and that of its time of day, which is what is
left over when whole days are taken off, and a reader that finds both of them again. Main
statement: the readers of dates, of times and of points in time show the same day and the same time
of day, so a text says exactly which point in time it shows.
-/

namespace RowCheck.Wire

/-! ## Dates -/

/-- The day that a text shows. -/
def readDate? (text : List Char) : Option Date := do
  let (front, day) ← Text.cutLast '-' text
  let (year, month) ← Text.cutLast '-' front
  return ⟨← Interval.readSigned? readNumber? year, ← readNumber? month, ← readNumber? day⟩

theorem readNumber?_padded {width : Nat} (pos : 0 < width) (n : Nat) :
    readNumber? (Text.padded width n) = some n := by
  have length := Nat.lt_of_lt_of_le pos (Text.le_length_padded width n)
  rw [readNumber?_of_digits (Text.isDigit_of_mem_padded width n)
    (List.ne_nil_of_length_pos length), Text.ofDigits_padded]

theorem startsWithDigit_padded {width : Nat} (pos : 0 < width) (n : Nat) :
    Interval.StartsWithDigit (Text.padded width n) := by
  have length := Nat.lt_of_lt_of_le pos (Text.le_length_padded width n)
  obtain ⟨c, rest, text⟩ := List.exists_cons_of_ne_nil (List.ne_nil_of_length_pos length)
  exact ⟨c, rest, text, Text.isDigit_of_mem_padded width n c (text ▸ List.mem_cons_self)⟩

theorem not_mem_padded {c : Char} (other : Text.isDigit c = false) (width n : Nat) :
    c ∉ Text.padded width n :=
  not_mem_of_digits (Text.isDigit_of_mem_padded width n) other

/-- A year is read back, whether it shows a sign or not. -/
theorem readSigned?_yearChars (year : Int) :
    Interval.readSigned? readNumber? (Date.yearChars year) = some year := by
  have read := readNumber?_padded (by decide : 0 < 4) year.natAbs
  rw [Date.yearChars]
  split
  · next negative =>
    rw [List.singleton_append, Interval.readSigned?, read, Option.map_some,
      Int.ofNat_natAbs_of_nonpos (Int.le_of_lt negative), Int.neg_neg]
  · next nonneg =>
    have value : (year.natAbs : Int) = year := Int.natAbs_of_nonneg (Int.not_lt.mp nonneg)
    split
    · rw [List.singleton_append, Interval.readSigned?, read, Option.map_some, value]
    · obtain ⟨c, rest, text, digit⟩ := startsWithDigit_padded (by decide : 0 < 4) year.natAbs
      rw [text] at read ⊢
      rw [List.nil_append, Interval.readSigned?, read, Option.map_some, value]
      · rintro rest minus
        rw [(List.cons.inj minus).1] at digit
        cases digit
      · rintro rest plus
        rw [(List.cons.inj plus).1] at digit
        cases digit

theorem readDate?_chars (d : Date) : readDate? d.chars = some d := by
  have dash (n : Nat) : '-' ∉ Text.padded 2 n := not_mem_padded rfl 2 n
  rw [readDate?, Date.chars, Text.cutLast_append (dash d.day)]
  simp only [Option.bind_eq_bind, Option.bind_some]
  rw [Text.cutLast_append (dash d.month)]
  simp only [Option.bind_some, readSigned?_yearChars, readNumber?_padded (Nat.zero_lt_succ 1)]
  rfl

theorem space_not_mem_chars (d : Date) : ' ' ∉ d.chars := by
  have digits (width n : Nat) : ' ' ∉ Text.padded width n := not_mem_padded rfl width n
  rw [Date.chars, Date.yearChars]
  split
  · simp [digits]
  · split <;> simp [digits]

/-! ## Points in time -/

/-- Microseconds in a day. -/
def dayMicros : Int := 86400000000

/-- The microseconds since the first of January 2000 began that a text shows. -/
def readTimestamp? (text : List Char) : Option Int := do
  let (date, clock) ← Text.cutFirst ' ' text
  return dayMicros * (← readDate? date).dayNumber + (← readClock? clock : Nat)

namespace Moment

/-- The day of a point in time is found by taking off whole days, rounded down. -/
theorem date_ofMicros (micros : Int) :
    (ofMicros micros).date = .ofDayNumber (micros / dayMicros) := by
  have days : micros / 1000000 / 86400 = micros / dayMicros :=
    Int.ediv_ediv_of_nonneg (by decide)
  rw [← days]
  rfl

/-- Seconds and nanoseconds together are what is left over. -/
theorem timeChars_ofMicros (micros : Int) :
    (ofMicros micros).timeChars = clockChars (micros % dayMicros).toNat := by
  have rest : (micros / 1000000 % 86400).toNat * 1000000 + (micros % 1000000).toNat * 1000 / 1000
      = (micros % dayMicros).toNat := by
    unfold dayMicros
    omega
  rw [← rest]
  rfl

end Moment

/-- The text of a point in time is made of the texts of its day and its time of day. -/
theorem timestampChars?_eq (micros : Int) :
    timestampChars? micros = (dateChars? (micros / dayMicros)).map fun date =>
      date ++ ' ' :: clockChars (micros % dayMicros).toNat := by
  rw [timestampChars?, dateChars?, Moment.date_ofMicros, Moment.timeChars_ofMicros]
  split <;> rfl

theorem readTimestamp?_of_timestampChars? {micros : Int} {text : List Char}
    (h : timestampChars? micros = some text) : readTimestamp? text = some micros := by
  rw [timestampChars?_eq, Option.map_eq_some_iff] at h
  obtain ⟨date, shown, rfl⟩ := h
  rw [dateChars?] at shown
  split at shown
  · cases shown
    have left : dayMicros * (micros / dayMicros) + ((micros % dayMicros).toNat : Int) = micros := by
      unfold dayMicros
      omega
    rw [readTimestamp?, Text.cutFirst_append (space_not_mem_chars _)]
    simp only [Option.bind_eq_bind, Option.bind_some, readDate?_chars, readClock?_clockChars,
      Date.dayNumber_ofDayNumber, left]
    rfl
  · cases shown

theorem timestampChars?_inj {micros micros' : Int} {text : List Char}
    (h : timestampChars? micros = some text) (h' : timestampChars? micros' = some text) :
    micros = micros' := by
  have read := readTimestamp?_of_timestampChars? h
  rw [readTimestamp?_of_timestampChars? h'] at read
  exact (Option.some.inj read).symm

/-! ## Values that are sent -/

/-- The binary form of a number with a sign, in four bytes. -/
def bytes32 (i : Int32) : List UInt8 := bytesOf 4 i.toUInt32.toNat

/-- The binary form of a number with a sign, in eight bytes. -/
def bytes64 (i : Int64) : List UInt8 := bytesOf 8 i.toUInt64.toNat

theorem decode_date (day : Int32) :
    decode (.builtIn .date) (some (bytes32 day)) = instant (dateChars? day.toInt) := by
  have read : date (bytes32 day) = instant (dateChars? day.toInt) := by
    rw [date, bytes32, exactly_bytesOf day.toUInt32.toNat_lt, ok_bind, int32_ofNat_toNat]
  exact read

theorem timestampMicros_bytes64 (micros : Int64) :
    timestampMicros (bytes64 micros) = .ok micros.toInt := by
  rw [timestampMicros, bytes64, exactly_bytesOf micros.toUInt64.toNat_lt, ok_bind,
    int64_ofNat_toNat]
  rfl

theorem decode_timestamp (micros : Int64) :
    decode (.builtIn .timestamp) (some (bytes64 micros))
      = instant (timestampChars? micros.toInt) := by
  have read : timestamp (bytes64 micros) = instant (timestampChars? micros.toInt) := by
    rw [timestamp, timestampMicros_bytes64, ok_bind]
  exact read

theorem decode_timestampTz (micros : Int64) :
    decode (.builtIn .timestamptz) (some (bytes64 micros))
      = instant ((timestampChars? micros.toInt).map (· ++ ['+', '0', '0'])) := by
  have read : timestampTz (bytes64 micros)
      = instant ((timestampChars? micros.toInt).map (· ++ ['+', '0', '0'])) := by
    rw [timestampTz, timestampMicros_bytes64, ok_bind]
  exact read

theorem decode_time (micros : Int64) :
    decode (.builtIn .time) (some (bytes64 micros))
      = .ok (.dateTime (String.ofList (clockChars micros.toInt.natAbs))) := by
  have small : micros.toUInt64.toNat % pow2 (8 * 8) = micros.toUInt64.toNat :=
    Nat.mod_eq_of_lt micros.toUInt64.toNat_lt
  have read : time (bytes64 micros)
      = .ok (.dateTime (String.ofList (clockChars micros.toInt.natAbs))) := by
    rw [time, readTime?, bytes64, field?_bytesOf_nil, small, Option.bind_eq_bind,
      Option.bind_some, int64_ofNat_toNat]
    rfl
  exact read

theorem instant_eq_ok_iff {chars? : Option (List Char)} {c : Cell} :
    instant chars? = .ok c ↔ ∃ text, chars? = some text ∧ c = .dateTime (String.ofList text) := by
  cases chars? with
  | none => simp [instant]
  | some text => simp [instant, eq_comm]

/-- The numbers of the days that a point in time can fall on fit into the field of a date. -/
theorem exists_day_and_rest (micros : Int64) :
    ∃ (day : Int32) (rest : Int64), day.toInt = micros.toInt / dayMicros ∧
      rest.toInt = micros.toInt % dayMicros := by
  have lower := micros.le_toInt
  have upper := micros.toInt_lt
  refine ⟨.ofInt (micros.toInt / dayMicros), .ofInt (micros.toInt % dayMicros), ?_, ?_⟩
  · apply Int32.toInt_ofInt_of_le <;> unfold dayMicros <;> omega
  · apply Int64.toInt_ofInt_of_le <;> unfold dayMicros <;> omega

/-- Both types of points in time are shown in one way, but for what stands behind. -/
theorem exists_zone {type : Server.BuiltIn} (point : type ∈ [.timestamp, .timestamptz]) :
    ∃ zone : List Char, ∀ micros : Int64, decode (.builtIn type) (some (bytes64 micros))
      = instant ((timestampChars? micros.toInt).map (· ++ zone)) := by
  simp only [List.mem_cons, List.not_mem_nil, or_false] at point
  rcases point with rfl | rfl
  · refine ⟨[], fun micros => ?_⟩
    simp only [decode_timestamp, List.append_nil, Option.map_id']
  · exact ⟨['+', '0', '0'], decode_timestampTz⟩

theorem display_dateTime (s : String) : (Cell.dateTime s).display = s :=
  (congrArg String.ofList rfl).trans (String.ofList_toList (s := s))

theorem display_timestamp_inj {type : Server.BuiltIn} (point : type ∈ [.timestamp, .timestamptz])
    {micros₁ micros₂ : Int64} {c₁ c₂ : Cell}
    (first : decode (.builtIn type) (some (bytes64 micros₁)) = .ok c₁)
    (second : decode (.builtIn type) (some (bytes64 micros₂)) = .ok c₂)
    (same : c₁.display = c₂.display) : micros₁ = micros₂ := by
  obtain ⟨zone, shown⟩ := exists_zone point
  rw [shown, instant_eq_ok_iff] at first second
  obtain ⟨text₁, chars₁, rfl⟩ := first
  obtain ⟨text₂, chars₂, rfl⟩ := second
  obtain ⟨front₁, shown₁, rfl⟩ := Option.map_eq_some_iff.mp chars₁
  obtain ⟨front₂, shown₂, rfl⟩ := Option.map_eq_some_iff.mp chars₂
  rw [display_dateTime, display_dateTime, String.ofList_inj] at same
  have front : front₁ = front₂ := List.append_cancel_right same
  have read : micros₁.toInt = micros₂.toInt := timestampChars?_inj shown₁ (front ▸ shown₂)
  exact Int64.toInt_inj.mp read

theorem ofList_append_space (date clock : List Char) :
    String.ofList (date ++ ' ' :: clock) = String.ofList date ++ " " ++ String.ofList clock := by
  rw [List.append_cons, String.ofList_append, String.ofList_append]

/-- A point in time is shown as its day, which is found by rounding down, and the time of day that
is left over, just as dates and times are shown; a zone is shown behind. Different points in time
are shown differently. -/
theorem timestamp_agrees_with_date_and_time {micros : Int64} {c : Cell}
    (accepted : decode (.builtIn .timestamp) (some (bytes64 micros)) = .ok c) :
    (∃ (day : Int32) (rest : Int64) (date clock : String),
      micros.toInt = dayMicros * day.toInt + rest.toInt ∧ 0 ≤ rest.toInt ∧ rest.toInt < dayMicros ∧
      decode (.builtIn .date) (some (bytes32 day)) = .ok (.dateTime date) ∧
      decode (.builtIn .time) (some (bytes64 rest)) = .ok (.dateTime clock) ∧
      c = .dateTime (date ++ " " ++ clock) ∧
      decode (.builtIn .timestamptz) (some (bytes64 micros))
        = .ok (.dateTime (date ++ " " ++ clock ++ "+00"))) ∧
    ∀ type ∈ [Server.BuiltIn.timestamp, .timestamptz], ∀ (micros₁ micros₂ : Int64) (c₁ c₂ : Cell),
      decode (.builtIn type) (some (bytes64 micros₁)) = .ok c₁ →
      decode (.builtIn type) (some (bytes64 micros₂)) = .ok c₂ →
      (c₁.display = c₂.display ↔ micros₁ = micros₂) := by
  constructor
  · rw [decode_timestamp, instant_eq_ok_iff] at accepted
    obtain ⟨text, shown, rfl⟩ := accepted
    obtain ⟨date, dateShown, rfl⟩ := Option.map_eq_some_iff.mp (timestampChars?_eq _ ▸ shown)
    obtain ⟨day, rest, dayEq, restEq⟩ := exists_day_and_rest micros
    have nonneg : 0 ≤ rest.toInt := restEq ▸ Int.emod_nonneg _ (by decide)
    have below : rest.toInt < dayMicros := restEq ▸ Int.emod_lt_of_pos _ (by decide)
    have clock : (micros.toInt % dayMicros).toNat = rest.toInt.natAbs := by omega
    rw [clock] at shown ⊢
    refine ⟨day, rest, String.ofList date, String.ofList (clockChars rest.toInt.natAbs), ?_, nonneg,
      below, ?_, decode_time rest, ?_, ?_⟩
    · rw [dayEq, restEq, Int.mul_ediv_add_emod]
    · rw [decode_date, dayEq, dateShown]
      rfl
    · rw [ofList_append_space]
    · rw [decode_timestampTz, shown, ← ofList_append_space]
      exact congrArg (fun text => Except.ok (Cell.dateTime text)) String.ofList_append
  · intro type point micros₁ micros₂ c₁ c₂ first second
    refine ⟨display_timestamp_inj point first second, ?_⟩
    rintro rfl
    rw [first] at second
    cases second
    rfl

/-- The last microsecond of a leap day, in a year before the first one. -/
theorem timestamp_of_leapDay :
    decode (.builtIn .timestamp) (some (bytes64 (-63108720000000001)))
        = .ok (.dateTime "0000-02-29 23:59:59.999999") ∧
      ∃ (day : Int32) (rest : Int64) (date clock : String),
        (-63108720000000001 : Int64).toInt = dayMicros * day.toInt + rest.toInt ∧
        0 ≤ rest.toInt ∧ rest.toInt < dayMicros ∧
        decode (.builtIn .date) (some (bytes32 day)) = .ok (.dateTime date) ∧
        decode (.builtIn .time) (some (bytes64 rest)) = .ok (.dateTime clock) ∧
        Cell.dateTime "0000-02-29 23:59:59.999999" = .dateTime (date ++ " " ++ clock) ∧
        decode (.builtIn .timestamptz) (some (bytes64 (-63108720000000001)))
          = .ok (.dateTime (date ++ " " ++ clock ++ "+00")) := by
  have shown : timestampChars? (-63108720000000001 : Int64).toInt
      = some "0000-02-29 23:59:59.999999".toList := by decide +kernel
  have accepted : decode (.builtIn .timestamp) (some (bytes64 (-63108720000000001)))
      = .ok (.dateTime "0000-02-29 23:59:59.999999") := by
    rw [decode_timestamp, shown]
    rfl
  exact ⟨accepted, (timestamp_agrees_with_date_and_time accepted).1⟩

end RowCheck.Wire
