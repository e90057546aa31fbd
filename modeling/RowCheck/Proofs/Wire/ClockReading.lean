import RowCheck.Proofs.Wire.Clock
import RowCheck.Text.Split
import RowCheck.Wire.Value

/-!
# Clocks taken apart

The texts of times of day and of zones as a grammar, and a reader for them. The reader finds the
count of every text of the grammar, and every count has its text in the grammar, so that a text
says exactly which count it shows. Main statement: this holds of all times that the server can
send, with every zone.
-/

namespace RowCheck.Wire

/-! ## Grammar -/

/-- The first field of a count in base sixty: two digits or more. -/
structure IsHours (field : List Char) : Prop where
  digits : ∀ c ∈ field, Text.isDigit c = true
  length : 2 ≤ field.length

/-- A field behind the first one: two digits, which count up to 59. -/
structure IsSixtieth (field : List Char) : Prop where
  digits : ∀ c ∈ field, Text.isDigit c = true
  length : field.length = 2
  lt : Text.ofDigits field < 60

/-- The decimal places of a second: one to six of them, the last of which is not zero. -/
structure IsFraction (places : List Char) : Prop where
  digits : ∀ c ∈ places, Text.isDigit c = true
  ne_nil : places ≠ []
  length : places.length ≤ 6
  last : places.getLast? ≠ some '0'

/-- The seconds that fields of hours, minutes and seconds count. -/
def secondsOf (hours minutes seconds : List Char) : Nat :=
  3600 * Text.ofDigits hours + 60 * Text.ofDigits minutes + Text.ofDigits seconds

/-- A text shows a number of microseconds as a clock. -/
inductive ShowsClock : List Char → Nat → Prop
  | whole {hours minutes seconds : List Char} (h : IsHours hours) (m : IsSixtieth minutes)
      (s : IsSixtieth seconds) :
    ShowsClock (hours ++ ':' :: minutes ++ ':' :: seconds)
      (1000000 * secondsOf hours minutes seconds)
  | fractional {hours minutes seconds places : List Char} (h : IsHours hours)
      (m : IsSixtieth minutes) (s : IsSixtieth seconds) (f : IsFraction places) :
    ShowsClock (hours ++ ':' :: minutes ++ ':' :: seconds ++ '.' :: places)
      (1000000 * secondsOf hours minutes seconds
        + Text.ofDigits places * pow10 (6 - places.length))

/-- A text shows a number of seconds as an offset. A field that is zero stands only in front of
others. -/
inductive ShowsOffset : List Char → Nat → Prop
  | hours {hours : List Char} (h : IsHours hours) : ShowsOffset hours (secondsOf hours [] [])
  | minutes {hours minutes : List Char} (h : IsHours hours) (m : IsSixtieth minutes)
      (some : Text.ofDigits minutes ≠ 0) :
    ShowsOffset (hours ++ ':' :: minutes) (secondsOf hours minutes [])
  | seconds {hours minutes seconds : List Char} (h : IsHours hours) (m : IsSixtieth minutes)
      (s : IsSixtieth seconds) (some : Text.ofDigits seconds ≠ 0) :
    ShowsOffset (hours ++ ':' :: minutes ++ ':' :: seconds) (secondsOf hours minutes seconds)

/-- A text shows the zone some seconds west: a plus sign stands for the east. -/
def ShowsZone (text : List Char) (west : Int) : Prop :=
  ∃ offset, text = (if west ≤ 0 then '+' else '-') :: offset ∧ ShowsOffset offset west.natAbs

/-! ## Reader -/

/-- The number that a text of digits spells. -/
def readNumber? (text : List Char) : Option Nat :=
  if text ≠ [] ∧ text.all Text.isDigit then some (Text.ofDigits text) else none

/-- The seconds that fields between colons count. -/
def readSeconds? (text : List Char) : Option Nat := do
  match ← (Text.splitAt ':' text).mapM readNumber? with
  | [h] => return 3600 * h
  | [h, m] => return 3600 * h + 60 * m
  | [h, m, s] => return 3600 * h + 60 * m + s
  | _ => none

/-- The microseconds that a clock shows. -/
def readClock? (text : List Char) : Option Nat :=
  match Text.cutFirst '.' text with
  | none => (readSeconds? text).map (1000000 * ·)
  | some (whole, places) => do
    let seconds ← readSeconds? whole
    let fraction ← readNumber? places
    return 1000000 * seconds + fraction * pow10 (6 - places.length)

/-- The microseconds and the zone that a clock with an offset shows. -/
def readZoned? (text : List Char) : Option (Nat × Int) :=
  match Text.cutFirst '+' text, Text.cutFirst '-' text with
  | some (clock, offset), _ => do
    return (← readClock? clock, -((← readSeconds? offset : Nat) : Int))
  | none, some (clock, offset) => do
    return (← readClock? clock, ((← readSeconds? offset : Nat) : Int))
  | none, none => none

variable {text : List Char} {n : Nat}

theorem readNumber?_of_digits (digits : ∀ c ∈ text, Text.isDigit c = true) (ne : text ≠ []) :
    readNumber? text = some (Text.ofDigits text) :=
  if_pos ⟨ne, List.all_eq_true.mpr digits⟩

theorem IsHours.ne_nil (h : IsHours text) : text ≠ [] :=
  List.ne_nil_of_length_pos (Nat.lt_of_lt_of_le (by decide) h.length)

theorem IsHours.readNumber? (h : IsHours text) : readNumber? text = some (Text.ofDigits text) :=
  readNumber?_of_digits h.digits h.ne_nil

theorem IsSixtieth.readNumber? (h : IsSixtieth text) :
    readNumber? text = some (Text.ofDigits text) :=
  readNumber?_of_digits h.digits (List.ne_nil_of_length_pos (by rw [h.length]; decide))

theorem not_mem_of_digits {c : Char} (digits : ∀ c ∈ text, Text.isDigit c = true)
    (other : Text.isDigit c = false) : c ∉ text := by
  intro mem
  rw [digits c mem] at other
  cases other

theorem readSeconds?_hours {hours : List Char} (h : IsHours hours) :
    readSeconds? hours = some (secondsOf hours [] []) := by
  rw [readSeconds?, Text.splitAt_of_not_mem (not_mem_of_digits h.digits rfl)]
  simp [h.readNumber?, secondsOf, Text.ofDigits]

theorem readSeconds?_minutes {hours minutes : List Char} (h : IsHours hours)
    (m : IsSixtieth minutes) :
    readSeconds? (hours ++ ':' :: minutes) = some (secondsOf hours minutes []) := by
  rw [readSeconds?, Text.splitAt_append (not_mem_of_digits h.digits rfl),
    Text.splitAt_of_not_mem (not_mem_of_digits m.digits rfl)]
  simp [h.readNumber?, m.readNumber?, secondsOf, Text.ofDigits]

theorem readSeconds?_seconds {hours minutes seconds : List Char} (h : IsHours hours)
    (m : IsSixtieth minutes) (s : IsSixtieth seconds) :
    readSeconds? (hours ++ ':' :: minutes ++ ':' :: seconds)
      = some (secondsOf hours minutes seconds) := by
  rw [readSeconds?, List.append_assoc, List.cons_append,
    Text.splitAt_append (not_mem_of_digits h.digits rfl),
    Text.splitAt_append (not_mem_of_digits m.digits rfl),
    Text.splitAt_of_not_mem (not_mem_of_digits s.digits rfl)]
  simp [h.readNumber?, m.readNumber?, s.readNumber?, secondsOf]

theorem ShowsOffset.read (h : ShowsOffset text n) : readSeconds? text = some n := by
  cases h with
  | hours h => exact readSeconds?_hours h
  | minutes h m => exact readSeconds?_minutes h m
  | seconds h m s => exact readSeconds?_seconds h m s

theorem not_mem_fields {hours minutes seconds : List Char} {c : Char} (h : IsHours hours)
    (m : IsSixtieth minutes) (s : IsSixtieth seconds) (other : Text.isDigit c = false)
    (ne : c ≠ ':') : c ∉ hours ++ ':' :: minutes ++ ':' :: seconds := by
  simp [not_mem_of_digits h.digits other, not_mem_of_digits m.digits other,
    not_mem_of_digits s.digits other, ne]

theorem ShowsClock.read (h : ShowsClock text n) : readClock? text = some n := by
  cases h with
  | whole h m s =>
    rw [readClock?, Text.cutFirst_eq_none.mpr (not_mem_fields h m s rfl (by decide))]
    exact congrArg (Option.map (1000000 * ·)) (readSeconds?_seconds h m s)
  | fractional h m s f =>
    rw [readClock?, Text.cutFirst_append (not_mem_fields h m s rfl (by decide))]
    dsimp only
    rw [readSeconds?_seconds h m s, readNumber?_of_digits f.digits f.ne_nil]
    rfl

/-- A clock has a point exactly if it shows a fraction of a second. -/
theorem ShowsClock.point_mem_iff (h : ShowsClock text n) : '.' ∈ text ↔ n % 1000000 ≠ 0 := by
  cases h with
  | whole h m s =>
    have none := @not_mem_fields _ _ _ '.' h m s rfl (by decide)
    rw [Nat.mul_mod_right]
    exact iff_of_false none fun some => some rfl
  | @fractional hours minutes seconds places h m s f =>
    have shown := Text.ofDigits_ne_zero f.digits f.ne_nil f.last
    have scale := pow10_pos (6 - places.length)
    have below : Text.ofDigits places * pow10 (6 - places.length) < 1000000 := by
      have lt := Nat.mul_lt_mul_of_pos_right (Text.ofDigits_lt f.digits) scale
      rwa [← pow10_add, Nat.add_sub_cancel' f.length] at lt
    have some := Nat.mul_pos (Nat.pos_of_ne_zero shown) scale
    rw [Nat.mul_add_mod, Nat.mod_eq_of_lt below]
    exact iff_of_true (by simp) (by omega)

theorem ShowsClock.not_mem {c : Char} (h : ShowsClock text n) (other : Text.isDigit c = false)
    (colon : c ≠ ':') (point : c ≠ '.') : c ∉ text := by
  cases h with
  | whole h m s => exact not_mem_fields h m s other colon
  | fractional h m s f =>
    have front := not_mem_fields h m s other colon
    have back := not_mem_of_digits f.digits other
    simp only [List.mem_append, List.mem_cons, not_or] at front ⊢
    exact ⟨front, point, back⟩

/-! ## Texts that are shown -/

theorem isHours_padded (n : Nat) : IsHours (Text.padded 2 n) :=
  ⟨Text.isDigit_of_mem_padded 2 n, Text.le_length_padded 2 n⟩

theorem isSixtieth_padded (h : n < 60) : IsSixtieth (Text.padded 2 n) where
  digits := Text.isDigit_of_mem_padded 2 n
  length := Text.length_padded_of_lt (by decide) (Nat.lt_trans h (by decide))
  lt := by rwa [Text.ofDigits_padded]

open Server.ClockFields (significantDigits)

theorem isDigit_of_mem_significantDigits (width n : Nat) :
    ∀ c ∈ significantDigits width n, Text.isDigit c = true := by
  induction width generalizing n with
  | zero => exact List.forall_mem_nil _
  | succ w ih =>
    rw [significantDigits]
    split
    · exact ih _
    · exact Text.isDigit_of_mem_lastDigits _ n

theorem length_significantDigits_le (width n : Nat) :
    (significantDigits width n).length ≤ width := by
  induction width generalizing n with
  | zero => exact Nat.le_refl 0
  | succ w ih =>
    rw [significantDigits]
    split
    · exact Nat.le_succ_of_le (ih _)
    · exact Nat.le_of_eq (Text.length_lastDigits _ n)

theorem getLast?_significantDigits (width n : Nat) :
    (significantDigits width n).getLast? ≠ some '0' := by
  induction width generalizing n with
  | zero => nofun
  | succ w ih =>
    rw [significantDigits]
    split
    · exact ih _
    · next nonzero =>
      rw [Text.lastDigits, List.getLast?_concat]
      exact fun zero => nonzero ((Text.digit_eq_zero_iff n).mp (Option.some.inj zero))

/-- The zeros that are left out at the end count as places. -/
theorem ofDigits_significantDigits {width : Nat} (h : n < pow10 width) :
    Text.ofDigits (significantDigits width n) * pow10 (width - (significantDigits width n).length)
      = n := by
  induction width generalizing n with
  | zero =>
    rw [pow10_zero] at h
    simp [significantDigits, Text.ofDigits]
    omega
  | succ w ih =>
    rw [significantDigits]
    split
    · next zero =>
      have quotient : n / 10 < pow10 w := by
        rw [Nat.div_lt_iff_lt_mul (by decide)]
        exact h
      have value := ih quotient
      have short := length_significantDigits_le w (n / 10)
      rw [Nat.succ_sub short, pow10_succ, ← Nat.mul_assoc, value]
      omega
    · rw [Text.ofDigits_lastDigits, Text.length_lastDigits, Nat.sub_self, pow10_zero, Nat.mul_one,
        Nat.mod_eq_of_lt h]

theorem isFraction_significantDigits (some : n ≠ 0) (h : n < 1000000) :
    IsFraction (significantDigits 6 n) where
  digits := isDigit_of_mem_significantDigits 6 n
  ne_nil := by
    intro none
    have value := @ofDigits_significantDigits n 6 h
    rw [none] at value
    simp [Text.ofDigits] at value
    exact some value.symm
  length := length_significantDigits_le 6 n
  last := getLast?_significantDigits 6 n

theorem showsClock_clockChars (micros : Nat) : ShowsClock (clockChars micros) micros := by
  have h := isHours_padded (micros / 3600000000)
  have m : IsSixtieth (Text.padded 2 (micros / 60000000 % 60)) :=
    isSixtieth_padded (Nat.mod_lt _ (by decide))
  have s : IsSixtieth (Text.padded 2 (micros / 1000000 % 60)) :=
    isSixtieth_padded (Nat.mod_lt _ (by decide))
  have total : 1000000 * secondsOf (Text.padded 2 (micros / 3600000000))
      (Text.padded 2 (micros / 60000000 % 60)) (Text.padded 2 (micros / 1000000 % 60))
        = micros - micros % 1000000 := by
    simp only [secondsOf, Text.ofDigits_padded]
    omega
  rw [clockChars]
  split
  · next none =>
    have shown := ShowsClock.whole h m s
    rwa [total, none, ← List.append_nil (_ ++ _)] at shown
  · next some =>
    have below : micros % 1000000 < 1000000 := Nat.mod_lt _ (by decide)
    have places : Text.padded 6 (micros % 1000000) = Text.lastDigits 6 (micros % 1000000) :=
      Text.padded_eq_lastDigits (by decide) below
    have shown := ShowsClock.fractional h m s (isFraction_significantDigits some below)
    rw [total, ofDigits_significantDigits below, Nat.sub_add_cancel (Nat.mod_le _ _)] at shown
    rwa [places, ← Server.ClockFields.significantDigits_eq]

theorem showsZone_zoneChars (west : Int32) : ShowsZone (zoneChars west) west.toInt := by
  refine ⟨_, rfl, ?_⟩
  generalize west.toInt.natAbs = offset
  have h := isHours_padded (offset / 3600)
  have m : IsSixtieth (Text.padded 2 (offset / 60 % 60)) :=
    isSixtieth_padded (Nat.mod_lt _ (by decide))
  have s : IsSixtieth (Text.padded 2 (offset % 60)) := isSixtieth_padded (Nat.mod_lt _ (by decide))
  -- Each form is taken when the fields behind it are zero.
  split
  · next some =>
    have shown := ShowsOffset.seconds h m s (by rwa [Text.ofDigits_padded])
    have total : secondsOf (Text.padded 2 (offset / 3600)) (Text.padded 2 (offset / 60 % 60))
        (Text.padded 2 (offset % 60)) = offset := by
      simp only [secondsOf, Text.ofDigits_padded]
      omega
    rwa [total] at shown
  · next noSeconds =>
    split
    · next some =>
      have shown := ShowsOffset.minutes h m (by rwa [Text.ofDigits_padded])
      have total : secondsOf (Text.padded 2 (offset / 3600)) (Text.padded 2 (offset / 60 % 60)) []
          = offset := by
        simp only [secondsOf, Text.ofDigits_padded, Text.ofDigits_nil]
        omega
      rwa [total] at shown
    · next noMinutes =>
      have shown := ShowsOffset.hours h
      have total : secondsOf (Text.padded 2 (offset / 3600)) [] [] = offset := by
        simp only [secondsOf, Text.ofDigits_padded, Text.ofDigits_nil]
        omega
      rwa [total] at shown

theorem ShowsOffset.not_mem {c : Char} (h : ShowsOffset text n) (other : Text.isDigit c = false)
    (colon : c ≠ ':') : c ∉ text := by
  cases h with
  | hours h => exact not_mem_of_digits h.digits other
  | minutes h m =>
    simp [not_mem_of_digits h.digits other, not_mem_of_digits m.digits other, colon]
  | seconds h m s => exact not_mem_fields h m s other colon

theorem readZoned?_append {zone : List Char} {west : Int} (clock : ShowsClock text n)
    (shown : ShowsZone zone west) : readZoned? (text ++ zone) = some (n, west) := by
  obtain ⟨offset, rfl, shown⟩ := shown
  have plus : '+' ∉ text := clock.not_mem rfl (by decide) (by decide)
  have minus : '-' ∉ text := clock.not_mem rfl (by decide) (by decide)
  by_cases east : west ≤ 0
  · rw [if_pos east, readZoned?, Text.cutFirst_append plus]
    dsimp only
    rw [clock.read, shown.read]
    show some (n, -(west.natAbs : Int)) = some (n, west)
    rw [Int.ofNat_natAbs_of_nonpos east, Int.neg_neg]
  · have none : '+' ∉ text ++ '-' :: offset := by
      have behind : '+' ∉ offset := shown.not_mem rfl (by decide)
      simp [plus, behind]
    rw [if_neg east, readZoned?, Text.cutFirst_eq_none.mpr none, Text.cutFirst_append minus]
    dsimp only
    rw [clock.read, shown.read]
    show some (n, (west.natAbs : Int)) = some (n, west)
    rw [Int.natAbs_of_nonneg (by omega)]

/-! ## Values that are sent -/

/-- The binary form of a time of day with a zone some seconds west. -/
def zonedBytes (micros : Nat) (west : Int32) : List UInt8 :=
  bytesOf 8 micros ++ bytesOf 4 west.toUInt32.toNat

theorem time_bytesOf (h : n < 0x8000000000000000) :
    time (bytesOf 8 n) = .ok (.dateTime (String.ofList (clockChars n))) := by
  rw [time, Server.readTime?_bytesOf h]
  rfl

theorem timeTz_zonedBytes (h : n < 0x8000000000000000) (west : Int32) :
    timeTz (zonedBytes n west)
      = .ok (.dateTime (String.ofList (clockChars n ++ zoneChars west))) := by
  rw [timeTz, zonedBytes, Server.readTimeTz?_bytesOf h]
  rfl

theorem readClock?_clockChars (micros : Nat) : readClock? (clockChars micros) = some micros :=
  (showsClock_clockChars micros).read

theorem readZoned?_chars (micros : Nat) (west : Int32) :
    readZoned? (clockChars micros ++ zoneChars west) = some (micros, west.toInt) :=
  readZoned?_append (showsClock_clockChars micros) (showsZone_zoneChars west)

theorem clockChars_inj {m m' : Nat} : clockChars m = clockChars m' ↔ m = m' := by
  refine ⟨fun same => ?_, congrArg clockChars⟩
  have read := readClock?_clockChars m
  rw [same, readClock?_clockChars] at read
  exact (Option.some.inj read).symm

theorem zonedChars_inj {m m' : Nat} {west west' : Int32} :
    clockChars m ++ zoneChars west = clockChars m' ++ zoneChars west' ↔ m = m' ∧ west = west' := by
  constructor
  · intro same
    have read := readZoned?_chars m west
    rw [same, readZoned?_chars] at read
    obtain ⟨clock, zone⟩ := Prod.mk.inj (Option.some.inj read)
    exact ⟨clock.symm, Int32.toInt_inj.mp zone.symm⟩
  · rintro ⟨rfl, rfl⟩
    rfl

theorem dateTime_inj {a b : List Char} :
    (.ok (.dateTime (String.ofList a)) : Decoded Cell) = .ok (.dateTime (String.ofList b))
      ↔ a = b := by
  rw [Except.ok.injEq, Cell.dateTime.injEq, String.ofList_inj]

/-- A time of day has the form of a clock, and a zone the shortest form that says all of it. What
they show is read back from the text, so different values have different texts. -/
theorem times_read_back {micros : Nat} (h : micros < 0x8000000000000000) :
    (time (bytesOf 8 micros) = .ok (.dateTime (String.ofList (clockChars micros))) ∧
      ShowsClock (clockChars micros) micros ∧
      ('.' ∈ clockChars micros ↔ micros % 1000000 ≠ 0) ∧
      readClock? (clockChars micros) = some micros) ∧
    (∀ west : Int32,
      timeTz (zonedBytes micros west)
        = .ok (.dateTime (String.ofList (clockChars micros ++ zoneChars west))) ∧
      ShowsZone (zoneChars west) west.toInt ∧
      readZoned? (clockChars micros ++ zoneChars west) = some (micros, west.toInt)) ∧
    ∀ micros' < 0x8000000000000000,
      (time (bytesOf 8 micros) = time (bytesOf 8 micros') ↔ micros = micros') ∧
      ∀ west west' : Int32, timeTz (zonedBytes micros west) = timeTz (zonedBytes micros' west') ↔
        micros = micros' ∧ west = west' := by
  have shown := showsClock_clockChars micros
  refine ⟨⟨time_bytesOf h, shown, shown.point_mem_iff, shown.read⟩, ?_, ?_⟩
  · intro west
    exact ⟨timeTz_zonedBytes h west, showsZone_zoneChars west, readZoned?_chars micros west⟩
  · intro micros' h'
    refine ⟨?_, fun west west' => ?_⟩
    · rw [time_bytesOf h, time_bytesOf h', dateTime_inj, clockChars_inj]
    · rw [timeTz_zonedBytes h, timeTz_zonedBytes h', dateTime_inj, zonedChars_inj]

/-- The longest time and the zone that is farthest east. -/
theorem extremeTime_read_back :
    9223372036854775807 < 0x8000000000000000 ∧
      timeTz (zonedBytes 9223372036854775807 (-2147483648))
        = .ok (.dateTime "2562047788:00:54.775807+596523:14:08") ∧
      readZoned? "2562047788:00:54.775807+596523:14:08".toList
        = some (9223372036854775807, -2147483648) := by
  obtain ⟨-, zoned, -⟩ := @times_read_back 9223372036854775807 (by decide)
  obtain ⟨cell, -, read⟩ := zoned (-2147483648)
  have text : clockChars 9223372036854775807 ++ zoneChars (-2147483648)
      = "2562047788:00:54.775807+596523:14:08".toList := by decide +kernel
  rw [text] at cell read
  exact ⟨by decide, cell, read⟩

end RowCheck.Wire
