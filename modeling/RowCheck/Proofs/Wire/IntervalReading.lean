import RowCheck.Proofs.Wire.ClockReading

/-!
# Intervals taken apart

Which parts the text of an interval has and what sign stands in front of each of them, and a reader
that adds up the parts of such a text. Main statement: the text of every interval has these parts,
and the reader finds its months, days and microseconds, so that a text says exactly which interval
it shows.
-/

namespace RowCheck.Wire.Interval

/-! ## Parts of a text -/

/-- What the parts of a text count. -/
inductive Field
  | years
  | months
  | days
  | clock
  deriving DecidableEq

/-- The order of the parts in a text. -/
def Field.inOrder : List Field := [.years, .months, .days, .clock]

/-- The name of a unit; a clock has none. -/
def Field.unit : Field → String
  | .years => "year"
  | .months => "mon"
  | .days => "day"
  | .clock => ""

/-- The number that a part shows. -/
def amount (v : Interval) : Field → Int
  | .years => v.months.toInt.tdiv 12
  | .months => v.months.toInt.tmod 12
  | .days => v.days.toInt
  | .clock => v.micros.toInt

/-- A part is shown unless it is zero. The clock is also shown if there is nothing else. -/
def Shows (v : Interval) : Field → Prop
  | .clock => v.amount .clock ≠ 0 ∨
      (v.amount .years = 0 ∧ v.amount .months = 0 ∧ v.amount .days = 0)
  | f => v.amount f ≠ 0

instance (v : Interval) : DecidablePred v.Shows
  | .years | .months | .days => inferInstanceAs (Decidable (_ ≠ _))
  | .clock => inferInstanceAs (Decidable (_ ∨ _))

/-- The parts that are shown. -/
def fields (v : Interval) : List Field := Field.inOrder.filter fun f => decide (v.Shows f)

/-- The text of a part without its sign: a clock, or a number and its unit, in the plural unless
the number is one. -/
def unsigned (v : Interval) : Field → List Char
  | .clock => clockChars (v.amount .clock).natAbs
  | f => Text.decimal (v.amount f).natAbs
      ++ ' ' :: f.unit.toList ++ if v.amount f = 1 then [] else ['s']

/-- The sign of a part. A plus sign stands only where the part right before is negative. -/
def sign (v : Interval) (before : Option Field) (f : Field) : List Char :=
  if v.amount f < 0 then ['-']
  else if before.any (fun b => v.amount b < 0) then ['+']
  else []

/-- The text of a part behind another one, or behind none. -/
def partText (v : Interval) (before : Option Field) (f : Field) : List Char :=
  v.sign before f ++ v.unsigned f

/-- The texts of parts that stand one behind the other. -/
def partTexts (v : Interval) (before : Option Field) (fs : List Field) : List (List Char) :=
  List.zipWith v.partText (before :: fs.map some) fs

/-! ## Reader -/

/-- The months, days and microseconds of an interval of any length. -/
structure Extent where
  months : Int
  days : Int
  micros : Int

/-- No time at all. -/
def Extent.zero : Extent := ⟨0, 0, 0⟩

/-- Adds a number of units. A clock counts in microseconds. -/
def Extent.add (e : Extent) (value : Int) : Field → Extent
  | .years => { e with months := e.months + 12 * value }
  | .months => { e with months := e.months + value }
  | .days => { e with days := e.days + value }
  | .clock => { e with micros := e.micros + value }

/-- The extent of a value. -/
def extent (v : Interval) : Extent := ⟨v.months.toInt, v.days.toInt, v.micros.toInt⟩

/-- A number that may have a sign. -/
def readSigned? (read? : List Char → Option Nat) : List Char → Option Int
  | '-' :: text => (read? text).map fun n : Nat => -(n : Int)
  | '+' :: text => (read? text).map fun n : Nat => (n : Int)
  | text => (read? text).map fun n : Nat => (n : Int)

/-- The unit that a word names, in the singular or the plural. -/
def readUnit? (word : List Char) : Option Field :=
  if word = "year".toList ∨ word = "years".toList then some .years
  else if word = "mon".toList ∨ word = "mons".toList then some .months
  else if word = "day".toList ∨ word = "days".toList then some .days
  else none

/-- Adds up numbers with their units, and a clock behind them. -/
def readWords? : List (List Char) → Option Extent
  | [] => some .zero
  | [clock] => do
    let micros ← readSigned? readClock? clock
    return Extent.zero.add micros .clock
  | count :: unit :: words => do
    let value ← readSigned? readNumber? count
    let field ← readUnit? unit
    return (← readWords? words).add value field

/-- The extent that a text shows. -/
def readText? (text : List Char) : Option Extent := readWords? (Text.splitAt ' ' text)

/-! ## Signs -/

/-- A part of an interval as it is written before its plus sign is. -/
def part (v : Interval) (f : Field) : Part where
  value := v.amount f
  chars := (if v.amount f < 0 then ['-'] else []) ++ v.unsigned f

theorem intChars_eq (value : Int) :
    Text.intChars value = (if value < 0 then ['-'] else []) ++ Text.decimal value.natAbs := by
  cases value with
  | ofNat n =>
    have nonneg : ¬ Int.ofNat n < 0 := Int.not_lt.mpr (Int.natCast_nonneg n)
    rw [if_neg nonneg]
    rfl
  | negSucc n =>
    rw [if_pos (Int.negSucc_lt_zero n)]
    rfl

theorem countPart_amount (v : Interval) {f : Field} (count : f ≠ .clock) :
    countPart (v.amount f) f.unit = if v.amount f = 0 then [] else [v.part f] := by
  rw [countPart, intChars_eq, part]
  cases f with
  | clock => exact absurd rfl count
  | years | months | days => simp only [unsigned, List.append_assoc]

/-- The parts of an interval are those that it shows. -/
theorem parts_eq (v : Interval) : v.parts = v.fields.map v.part := by
  have years : countPart (v.months.toInt.tdiv 12) "year" = _ :=
    countPart_amount v (f := .years) nofun
  have months : countPart (v.months.toInt.tmod 12) "mon" = _ :=
    countPart_amount v (f := .months) nofun
  have days : countPart v.days.toInt "day" = _ := countPart_amount v (f := .days) nofun
  have clock (others : List Part) : clockPart v.micros.toInt others
      = if v.amount .clock = 0 ∧ !others.isEmpty then [] else [v.part .clock] := rfl
  rw [parts, years, months, days, clock, fields, Field.inOrder]
  by_cases y : v.amount .years = 0 <;> by_cases m : v.amount .months = 0 <;>
    by_cases d : v.amount .days = 0 <;> by_cases c : v.amount .clock = 0 <;>
    simp [Shows, y, m, d, c]

theorem signed_map_part (v : Interval) (before : Option Field) (fs : List Field) :
    signed (before.any fun b => v.amount b < 0) (fs.map v.part) = v.partTexts before fs := by
  induction fs generalizing before with
  | nil => rfl
  | cons f fs ih =>
    have rest := ih (some f)
    have first : (if (before.any fun b => v.amount b < 0) ∧ 0 ≤ (v.part f).value
        then '+' :: (v.part f).chars else (v.part f).chars) = v.partText before f := by
      by_cases negative : v.amount f < 0
      · have sign : ¬ 0 ≤ v.amount f := by omega
        simp [part, partText, Interval.sign, negative, sign]
      · have sign : 0 ≤ v.amount f := by omega
        cases before with
        | none => simp [part, partText, Interval.sign, negative]
        | some b => by_cases behind : v.amount b < 0 <;>
            simp [part, partText, Interval.sign, negative, sign, behind]
    rw [List.map_cons, signed, first]
    exact congrArg (v.partText before f :: ·) rest

theorem chars_eq (v : Interval) : v.chars = [' '].intercalate (v.partTexts none v.fields) := by
  rw [chars, parts_eq, ← signed_map_part]
  rfl

/-! ## Parts read back -/

/-- A text starts with a digit. -/
def StartsWithDigit (text : List Char) : Prop :=
  ∃ c rest, text = c :: rest ∧ Text.isDigit c = true

theorem startsWithDigit_decimal (n : Nat) : StartsWithDigit (Text.decimal n) := by
  obtain ⟨c, rest, text⟩ := List.exists_cons_of_ne_nil (Text.decimal_ne_nil n)
  exact ⟨c, rest, text, Text.isDigit_of_mem_decimal n c (text ▸ List.mem_cons_self)⟩

theorem startsWithDigit_clockChars (n : Nat) : StartsWithDigit (clockChars n) := by
  have hours := isHours_padded (n / 3600000000)
  obtain ⟨c, rest, text⟩ := List.exists_cons_of_ne_nil hours.ne_nil
  have digit := hours.digits c (text ▸ List.mem_cons_self)
  rw [clockChars, text]
  exact ⟨c, _, rfl, digit⟩

/-- A number is read back behind its sign, or behind a plus sign that it need not have. -/
theorem readSigned?_sign {read? : List Char → Option Nat} {v : Interval} {f : Field}
    {text : List Char} (before : Option Field) (digit : StartsWithDigit text)
    (read : read? text = some (v.amount f).natAbs) :
    readSigned? read? (v.sign before f ++ text) = some (v.amount f) := by
  rw [sign]
  split
  · next negative =>
    rw [List.singleton_append, readSigned?, read, Option.map_some,
      Int.ofNat_natAbs_of_nonpos (Int.le_of_lt negative), Int.neg_neg]
  · next nonneg =>
    have value : ((v.amount f).natAbs : Int) = v.amount f :=
      Int.natAbs_of_nonneg (Int.not_lt.mp nonneg)
    split
    · rw [List.singleton_append, readSigned?, read, Option.map_some, value]
    · -- Without a sign the reader must not take the first digit for one.
      obtain ⟨c, rest, rfl, digit⟩ := digit
      rw [List.nil_append, readSigned?, read, Option.map_some, value]
      · intro rest minus
        rw [(List.cons.inj minus).1] at digit
        cases digit
      · intro rest plus
        rw [(List.cons.inj plus).1] at digit
        cases digit

theorem not_mem_sign (v : Interval) (before : Option Field) (f : Field) :
    ' ' ∉ v.sign before f := by
  rw [sign]
  split
  · decide
  · split <;> decide

theorem readUnit?_unit (value : Int) {f : Field} (count : f ≠ .clock) :
    readUnit? (f.unit.toList ++ if value = 1 then [] else ['s']) = some f := by
  cases f with
  | clock => exact absurd rfl count
  | years | months | days => split <;> rfl

theorem unsigned_eq (v : Interval) {f : Field} (count : f ≠ .clock) :
    v.unsigned f = Text.decimal (v.amount f).natAbs
      ++ ' ' :: f.unit.toList ++ if v.amount f = 1 then [] else ['s'] := by
  cases f with
  | clock => exact absurd rfl count
  | years | months | days => rfl

/-- A number with its unit is two words, and what they say is added to what the others say. -/
theorem readWords?_count (v : Interval) {f : Field} (before : Option Field)
    (words : List (List Char)) (count : f ≠ .clock) :
    readWords? (Text.splitAt ' ' (v.partText before f) ++ words)
      = (readWords? words).map (·.add (v.amount f) f) := by
  have number : readSigned? readNumber? (v.sign before f ++ Text.decimal (v.amount f).natAbs)
      = some (v.amount f) := by
    apply readSigned?_sign before (startsWithDigit_decimal _)
    rw [readNumber?_of_digits (Text.isDigit_of_mem_decimal _) (Text.decimal_ne_nil _),
      Text.ofDigits_decimal]
  have first : ' ' ∉ v.sign before f ++ Text.decimal (v.amount f).natAbs := by
    have digits : ' ' ∉ Text.decimal (v.amount f).natAbs := Text.not_mem_decimal rfl _
    simp [not_mem_sign, digits]
  have second : ' ' ∉ f.unit.toList ++ if v.amount f = 1 then [] else ['s'] := by
    have none : ' ' ∉ f.unit.toList := by cases f <;> decide
    split <;> simp [none]
  have split : Text.splitAt ' ' (v.partText before f)
      = [v.sign before f ++ Text.decimal (v.amount f).natAbs,
        f.unit.toList ++ if v.amount f = 1 then [] else ['s']] := by
    rw [partText, unsigned_eq v count, List.append_assoc, ← List.append_assoc, List.cons_append,
      Text.splitAt_append first, Text.splitAt_of_not_mem second]
  rw [split, List.cons_append, List.cons_append, List.nil_append, readWords?, number,
    readUnit?_unit _ count]
  cases readWords? words <;> rfl

theorem readWords?_clock (v : Interval) (before : Option Field) :
    readWords? (Text.splitAt ' ' (v.partText before .clock))
      = some (Extent.zero.add (v.amount .clock) .clock) := by
  have clock := showsClock_clockChars (v.amount .clock).natAbs
  have none : ' ' ∉ v.partText before .clock := by
    have behind : ' ' ∉ clockChars (v.amount .clock).natAbs :=
      clock.not_mem rfl (by decide) (by decide)
    simp [partText, unsigned, not_mem_sign, behind]
  rw [Text.splitAt_of_not_mem none, readWords?]
  have read := readSigned?_sign before (startsWithDigit_clockChars _) clock.read
  rw [partText, unsigned, read]
  rfl

/-- The amounts of all parts are added up. Only the last part can be a clock. -/
theorem readWords?_partTexts (v : Interval) {fs : List Field}
    (last : fs.Pairwise fun f _ => f ≠ .clock) (before : Option Field) :
    readWords? ((v.partTexts before fs).flatMap (Text.splitAt ' '))
      = some (fs.foldr (fun f e => e.add (v.amount f) f) .zero) := by
  induction fs generalizing before with
  | nil => rfl
  | cons f fs ih =>
    -- A clock is a single word, which is read as one only if no words stand behind it.
    obtain ⟨front, later⟩ := List.pairwise_cons.mp last
    have texts : v.partTexts before (f :: fs)
        = v.partText before f :: v.partTexts (some f) fs := rfl
    rw [texts, List.flatMap_cons]
    by_cases clock : f = .clock
    · have behind : fs = [] := List.eq_nil_iff_forall_not_mem.mpr fun g mem => front g mem clock
      subst clock behind
      exact (congrArg readWords? (List.append_nil _)).trans (readWords?_clock v before)
    · rw [readWords?_count v before _ clock, ih later (some f)]
      rfl

theorem add_zero (e : Extent) (f : Field) : e.add 0 f = e := by
  cases f <;> simp [Extent.add]

theorem amount_of_not_shows {v : Interval} {f : Field} (h : ¬ v.Shows f) : v.amount f = 0 := by
  cases f with
  | years | months | days => exact Decidable.of_not_not h
  | clock => exact Decidable.of_not_not fun nonzero => h (.inl nonzero)

/-- The parts that are not shown are zero, so the others add up to the whole. -/
theorem foldr_fields (v : Interval) :
    v.fields.foldr (fun f e => e.add (v.amount f) f) .zero = v.extent := by
  have skip (f : Field) (e : Extent) :
      (if decide (v.Shows f) = true then e.add (v.amount f) f else e) = e.add (v.amount f) f := by
    split
    · rfl
    · next hidden => rw [amount_of_not_shows (by simpa using hidden), add_zero]
  have months : 12 * v.months.toInt.tdiv 12 + v.months.toInt.tmod 12 = v.months.toInt :=
    Int.mul_tdiv_add_tmod _ 12
  rw [fields, List.foldr_filter]
  simp only [skip]
  simp [Field.inOrder, Extent.add, Extent.zero, amount, extent]
  omega

/-- Some part is shown, at least the clock. -/
theorem fields_ne_nil (v : Interval) : v.fields ≠ [] := by
  intro none
  have hidden (f : Field) : ¬ v.Shows f := by
    have mem : f ∈ Field.inOrder := by cases f <;> decide
    simpa using List.filter_eq_nil_iff.mp none f mem
  have zero (f : Field) : v.amount f = 0 := amount_of_not_shows (hidden f)
  exact hidden .clock (.inr ⟨zero .years, zero .months, zero .days⟩)

theorem readText?_chars (v : Interval) : readText? v.chars = some v.extent := by
  have last : v.fields.Pairwise fun f _ => f ≠ .clock := List.Pairwise.filter _ (by decide)
  have words := readWords?_partTexts v last none
  rw [foldr_fields] at words
  rw [readText?, chars_eq]
  obtain ⟨f, fs, shown⟩ := List.exists_cons_of_ne_nil (fields_ne_nil v)
  rw [shown] at words ⊢
  exact (congrArg readWords? (Text.splitAt_intercalate ' ' _ _)).trans words

theorem extent_inj {v w : Interval} : v.extent = w.extent ↔ v = w := by
  obtain ⟨micros, days, months⟩ := v
  obtain ⟨micros', days', months'⟩ := w
  simp only [extent, Extent.mk.injEq, Int32.toInt_inj, Int64.toInt_inj, Interval.mk.injEq]
  constructor
  · rintro ⟨rfl, rfl, rfl⟩
    exact ⟨rfl, rfl, rfl⟩
  · rintro ⟨rfl, rfl, rfl⟩
    exact ⟨rfl, rfl, rfl⟩

theorem interval_bytes (v : Interval) : interval v.bytes = .ok (.text (String.ofList v.chars)) := by
  rw [interval, Server.read?_bytes_interval]
  rfl

/-- The text of an interval has the parts that it shows, each with the sign that the part before it
calls for. The interval is read back from the text, so different intervals have different texts. -/
theorem chars_read_back (v : Interval) :
    interval v.bytes = .ok (.text (String.ofList v.chars)) ∧
    v.chars = [' '].intercalate (v.partTexts none v.fields) ∧
    readText? v.chars = some v.extent ∧
    ∀ w : Interval, interval v.bytes = interval w.bytes ↔ v = w := by
  refine ⟨interval_bytes v, chars_eq v, readText?_chars v, fun w => ⟨fun same => ?_, ?_⟩⟩
  · rw [interval_bytes, interval_bytes, Except.ok.injEq, Cell.text.injEq, String.ofList_inj] at same
    have read := readText?_chars v
    rw [same, readText?_chars] at read
    exact (extent_inj.mp (Option.some.inj read)).symm
  · rintro rfl
    rfl

example : chars ⟨-9223372036854775808, 1, -2147483648⟩
    = "-178956970 years -8 mons +1 day -2562047788:00:54.775808".toList := by decide +kernel

end RowCheck.Wire.Interval
