import RowCheck.Wire.Bytes
import RowCheck.Text.Digits

/-!
# Times of day and intervals

Times in microseconds, the offsets of zones, and intervals of months, days and microseconds, with
the texts that the server shows for them.
-/

namespace RowCheck.Wire

/-- Hours, minutes and seconds of a number of microseconds; a fraction stands without trailing
zeros. -/
def clockChars (micros : Nat) : List Char :=
  Text.padded 2 (micros / 3600000000) ++ ':' :: Text.padded 2 (micros / 60000000 % 60)
    ++ ':' :: Text.padded 2 (micros / 1000000 % 60)
    ++ if micros % 1000000 = 0 then []
      else '.' :: ((Text.padded 6 (micros % 1000000)).reverse.dropWhile (· == '0')).reverse

/-- The offset of a zone, given in seconds west: hours, and minutes and seconds where needed. -/
def zoneChars (west : Int32) : List Char :=
  let offset := west.toInt.natAbs
  let hours := Text.padded 2 (offset / 3600)
  let minutes := Text.padded 2 (offset / 60 % 60)
  let seconds := Text.padded 2 (offset % 60)
  (if west.toInt ≤ 0 then '+' else '-') ::
    if offset % 60 ≠ 0 then hours ++ ':' :: minutes ++ ':' :: seconds
    else if offset / 60 % 60 ≠ 0 then hours ++ ':' :: minutes
    else hours

/-- A time of day. -/
def readTime? (raw : List UInt8) : Option (List Char) := do
  let micros ← field? 8 0 raw
  return clockChars (Int64.ofNat micros).toInt.natAbs

/-- A time of day and the offset of its zone. -/
def readTimeTz? (raw : List UInt8) : Option (List Char) := do
  let micros ← field? 8 0 raw
  let zone ← field? 4 8 raw
  return clockChars (Int64.ofNat micros).toInt.natAbs ++ zoneChars (.ofNat zone)

/-- A span of time. -/
structure Interval where
  micros : Int64
  days : Int32
  months : Int32
  deriving DecidableEq

namespace Interval

def read? (raw : List UInt8) : Option Interval := do
  let micros ← field? 8 0 raw
  let days ← field? 4 8 raw
  let months ← field? 4 12 raw
  return ⟨.ofNat micros, .ofNat days, .ofNat months⟩

/-- The binary form of an interval. -/
def bytes (v : Interval) : List UInt8 :=
  bytesOf 8 v.micros.toUInt64.toNat ++ bytesOf 4 v.days.toUInt32.toNat
    ++ bytesOf 4 v.months.toUInt32.toNat

/-- A part of an interval: its value, and its text once it is known whether the part before it is
negative. -/
structure Part where
  value : Int
  chars : List Char

/-- A number of units, nothing if there are none. -/
def countPart (value : Int) (unit : String) : List Part :=
  if value = 0 then []
  else [⟨value, Text.intChars value ++ ' ' :: unit.toList ++ if value = 1 then [] else ['s']⟩]

/-- The clock part, without its plus sign; there is one unless other parts say it all. -/
def clockPart (micros : Int) (others : List Part) : List Part :=
  if micros = 0 ∧ !others.isEmpty then []
  else [⟨micros, (if micros < 0 then ['-'] else []) ++ clockChars micros.natAbs⟩]

/-- A part after a negative one shows its sign even if it is not negative. -/
def signed (afterNegative : Bool) : List Part → List (List Char)
  | [] => []
  | p :: ps =>
    (if afterNegative ∧ 0 ≤ p.value then '+' :: p.chars else p.chars)
      :: signed (decide (p.value < 0)) ps

/-- Years, months, days and the clock. -/
def parts (v : Interval) : List Part :=
  let others := countPart (v.months.toInt.tdiv 12) "year" ++ countPart (v.months.toInt.tmod 12) "mon"
    ++ countPart v.days.toInt "day"
  others ++ clockPart v.micros.toInt others

/-- The text of an interval. -/
def chars (v : Interval) : List Char := [' '].intercalate (signed false v.parts)

end Interval

end RowCheck.Wire
