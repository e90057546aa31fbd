import RowCheck.Server.Types
import RowCheck.Wire.Numeric
import RowCheck.Wire.Clock
import RowCheck.Text.Utf8
import Mathlib.Data.Nat.Digits.Defs

/-!
# Values as the server has them

The values of the types that both ways of running a query can read, each with the binary form that
the server sends for it and the text by which the server itself shows it. The texts are those of
the server's output functions, with intervals in its default style `postgres`; they are taken from
the values, not from the bytes.
-/

namespace RowCheck.Server

/-! ## Decimal numbers -/

/-- A decimal number: how many units it has of the last decimal place that is shown. The bounds are
those of the server: 131072 digits before the point and 16383 after it. -/
structure Decimal where
  units : Int
  scale : Nat
  scale_le : scale ≤ 16383
  units_lt : units.natAbs < pow10 (131072 + scale)

namespace Decimal

/-- The text of a decimal number, with all of its decimal places. -/
def text (d : Decimal) : List Char :=
  (if d.units < 0 then ['-'] else []) ++ Text.decimal (d.units.natAbs / pow10 d.scale)
    ++ if d.scale = 0 then [] else '.' :: Text.lastDigits d.scale d.units.natAbs

/-- How many groups of four digits hold the decimal places. -/
def fractionGroups (d : Decimal) : Nat := (d.scale + 3) / 4

/-- The number in units of the last group. -/
def aligned (d : Decimal) : Nat := d.units.natAbs * pow10 (4 * d.fractionGroups - d.scale)

/-- The groups of a number, the last one first, without zeros in front; zero has none. -/
def groupDigits (d : Decimal) : List Nat := Nat.digits 10000 d.aligned

/-- The groups that are sent: the first one first, without zeros at either end. -/
def groups (d : Decimal) : List Nat := (d.groupDigits.dropWhile (· == 0)).reverse

/-- The place of the first group before the point. -/
def weight (d : Decimal) : Int :=
  if d.units = 0 then 0 else (d.groupDigits.length : Int) - 1 - d.fractionGroups

/-- The number as it is sent. -/
def packed (d : Decimal) : Wire.Numeric :=
  .finite (decide (d.units < 0)) d.groups (.ofInt d.weight) d.scale

end Decimal

/-- A value of the type `numeric`. -/
inductive NumericValue where
  | nan
  | infinity (negative : Bool)
  | finite (d : Decimal)

namespace NumericValue

/-- What is written. -/
def text : NumericValue → List Char
  | .nan => "NaN".toList
  | .infinity negative => if negative then "-Infinity".toList else "Infinity".toList
  | .finite d => d.text

/-- What is sent: an infinity has a scale of 32, which says nothing. -/
def binary : NumericValue → List UInt8
  | .nan => Wire.Numeric.nan.bytes
  | .infinity negative =>
    Wire.bytesOf 2 0 ++ Wire.bytesOf 2 0 ++ Wire.bytesOf 2 (if negative then 0xF000 else 0xD000)
      ++ Wire.bytesOf 2 32
  | .finite d => d.packed.bytes

end NumericValue

/-! ## Times and intervals -/

/-- A time of day, from midnight to the midnight after it. -/
structure TimeOfDay where
  micros : Nat
  le_day : micros ≤ 86400000000

/-- The fields of a number of microseconds; each has the sign of the number. -/
structure ClockFields where
  hour : Int
  minute : Int
  second : Int
  micro : Int

namespace ClockFields

/-- Hours are taken off first, then minutes, then seconds. -/
def ofMicros (micros : Int) : ClockFields :=
  let afterHours := micros.tmod 3600000000
  let afterMinutes := afterHours.tmod 60000000
  { hour := micros.tdiv 3600000000
    minute := afterHours.tdiv 60000000
    second := afterMinutes.tdiv 1000000
    micro := afterMinutes.tmod 1000000 }

/-- The last `width` digits of a number, less the zeros at their end. -/
def significantDigits : Nat → Nat → List Char
  | 0, _ => []
  | width + 1, n =>
    if n % 10 = 0 then significantDigits width (n / 10) else Text.lastDigits (width + 1) n

/-- The text of the fields, without a sign. -/
def text (f : ClockFields) : List Char :=
  Text.padded 2 f.hour.natAbs ++ ':' :: Text.padded 2 f.minute.natAbs
    ++ ':' :: Text.padded 2 f.second.natAbs
    ++ if f.micro = 0 then [] else '.' :: significantDigits 6 f.micro.natAbs

end ClockFields

/-- The text of a time of day. -/
def TimeOfDay.text (t : TimeOfDay) : List Char := (ClockFields.ofMicros t.micros).text

/-- The text of the offset of a zone, given in seconds west: hours, then minutes and seconds as far
as they are needed. -/
def zoneText (west : Int) : List Char :=
  let minutes := west.natAbs / 60
  let seconds := west.natAbs - minutes * 60
  let hours := minutes / 60
  let minutes := minutes - hours * 60
  (if west ≤ 0 then '+' else '-') ::
    if seconds ≠ 0 then
      Text.padded 2 hours ++ ':' :: Text.padded 2 minutes ++ ':' :: Text.padded 2 seconds
    else if minutes ≠ 0 then Text.padded 2 hours ++ ':' :: Text.padded 2 minutes
    else Text.padded 2 hours

/-- The text of an interval as far as it is written. -/
structure IntervalText where
  chars : List Char
  /-- Nothing is written yet. -/
  isZero : Bool
  /-- The last part is negative. -/
  isBefore : Bool

namespace IntervalText

/-- The text before anything is written. -/
def start : IntervalText := ⟨[], true, false⟩

/-- Writes a number of units, unless it is zero. A positive one shows its sign behind a negative
one. -/
def addUnits (t : IntervalText) (value : Int) (unit : String) : IntervalText :=
  if value = 0 then t
  else
    { chars := t.chars ++ (if t.isZero then [] else [' '])
        ++ (if t.isBefore ∧ 0 < value then ['+'] else []) ++ Text.intChars value
        ++ ' ' :: unit.toList ++ if value = 1 then [] else ['s']
      isZero := false
      isBefore := decide (value < 0) }

/-- Writes the years, the months and the days of an interval. -/
def ofUnits (v : Wire.Interval) : IntervalText :=
  ((start.addUnits (v.months.toInt.tdiv 12) "year").addUnits (v.months.toInt.tmod 12) "mon").addUnits
    v.days.toInt "day"

/-- Writes the clock, unless it is zero and something else is written. -/
def addClock (t : IntervalText) (f : ClockFields) : List Char :=
  if t.isZero ∨ f.hour ≠ 0 ∨ f.minute ≠ 0 ∨ f.second ≠ 0 ∨ f.micro ≠ 0 then
    t.chars ++ (if t.isZero then [] else [' '])
      ++ (if f.hour < 0 ∨ f.minute < 0 ∨ f.second < 0 ∨ f.micro < 0 then ['-']
        else if t.isBefore then ['+'] else [])
      ++ f.text
  else t.chars

end IntervalText

/-- The interval that stands for no end. -/
def endlessInterval : Wire.Interval := ⟨.maxValue, .maxValue, .maxValue⟩

/-- The interval that stands for no beginning. -/
def beginninglessInterval : Wire.Interval := ⟨.minValue, .minValue, .minValue⟩

/-- The text of an interval. -/
def intervalText (v : Wire.Interval) : List Char :=
  if v = endlessInterval then "infinity".toList
  else if v = beginninglessInterval then "-infinity".toList
  else (IntervalText.ofUnits v).addClock (.ofMicros v.micros.toInt)

/-- An interval with a length. -/
structure FiniteInterval where
  value : Wire.Interval
  ne_endless : value ≠ endlessInterval
  ne_beginningless : value ≠ beginninglessInterval

/-! ## Values of all types -/

/-- A type that both ways of running a query can read. -/
inductive ValueType where
  | int2
  | int4
  | int8
  | oid
  | text
  | varchar
  | bpchar
  | name
  | enum (label : String) (number : Nat) (labels : List String)
  | numeric
  | interval
  | time
  | timeTz

namespace ValueType

/-- The type as it is known on the client's side. -/
def serverType : ValueType → ServerType
  | .int2 => .builtIn .int2
  | .int4 => .builtIn .int4
  | .int8 => .builtIn .int8
  | .oid => .builtIn .oid
  | .text => .builtIn .text
  | .varchar => .builtIn .varchar
  | .bpchar => .builtIn .bpchar
  | .name => .builtIn .name
  | .enum label n labels => .added label n (.enum labels)
  | .numeric => .builtIn .numeric
  | .interval => .builtIn .interval
  | .time => .builtIn .time
  | .timeTz => .builtIn .timetz

/-- The number of the type. -/
def number (t : ValueType) : Nat :=
  match t.serverType with
  | .builtIn b => b.number
  | .added _ n _ => n
  | .unread .. => 0

/-- The values of a type. A `timetz` is a time of day in a zone some seconds west. -/
def Value : ValueType → Type
  | .int2 => Int16
  | .int4 => Int32
  | .int8 => Int64
  | .oid => UInt32
  | .text | .varchar | .bpchar | .name | .enum .. => String
  | .numeric => NumericValue
  | .interval => FiniteInterval
  | .time => TimeOfDay
  | .timeTz => TimeOfDay × Int32

/-- The binary form of a value. -/
def binary : (t : ValueType) → t.Value → List UInt8
  | .int2, (i : Int16) => Wire.bytesOf 2 i.toUInt16.toNat
  | .int4, (i : Int32) => Wire.bytesOf 4 i.toUInt32.toNat
  | .int8, (i : Int64) => Wire.bytesOf 8 i.toUInt64.toNat
  | .oid, (n : UInt32) => Wire.bytesOf 4 n.toNat
  | .text, s | .varchar, s | .bpchar, s | .name, s | .enum .., s => Text.Utf8.ofString s
  | .numeric, (x : NumericValue) => x.binary
  | .interval, (v : FiniteInterval) => v.value.bytes
  | .time, (t : TimeOfDay) => Wire.bytesOf 8 t.micros
  | .timeTz, ((t, west) : TimeOfDay × Int32) =>
    Wire.bytesOf 8 t.micros ++ Wire.bytesOf 4 west.toUInt32.toNat

/-- The server's text of a value. -/
def shown : (t : ValueType) → t.Value → String
  | .int2, (i : Int16) => String.ofList (Text.intChars i.toInt)
  | .int4, (i : Int32) => String.ofList (Text.intChars i.toInt)
  | .int8, (i : Int64) => String.ofList (Text.intChars i.toInt)
  | .oid, (n : UInt32) => String.ofList (Text.decimal n.toNat)
  | .text, s | .varchar, s | .bpchar, s | .name, s | .enum .., s => s
  | .numeric, (x : NumericValue) => String.ofList x.text
  | .interval, (v : FiniteInterval) => String.ofList (intervalText v.value)
  | .time, (t : TimeOfDay) => String.ofList t.text
  | .timeTz, ((t, west) : TimeOfDay × Int32) => String.ofList (t.text ++ zoneText west.toInt)

end ValueType

end RowCheck.Server
