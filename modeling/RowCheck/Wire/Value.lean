import RowCheck.Wire.Numeric
import RowCheck.Wire.Calendar
import RowCheck.Server.Error
import RowCheck.Cell
import RowCheck.Json.Reader

/-!
# Reading binary values

Each type of a result column has one reader, which gives the cell whose text is the server's own
text for the value.
-/

namespace RowCheck.Wire

open Server (DecodeFault ServerType)

/-- The outcome of reading a value. -/
abbrev Decoded (α : Type) := Except DecodeFault α

/-- A number of a fixed size, with nothing after it. -/
def exactly (width : Nat) (overlong : String) (raw : List UInt8) : Decoded Nat :=
  match field? width 0 raw with
  | none => .error .unexpectedEnd
  | some n => if raw.length = width then .ok n else .error (.described overlong)

/-- A number of a fixed size as a cell. -/
def number (width : Nat) (cell : Nat → Cell) (raw : List UInt8) : Decoded Cell :=
  (exactly width "invalid buffer size" raw).map cell

def int16 (raw : List UInt8) : Decoded Cell :=
  number 2 (fun n => .int (Int16.ofNat n).toInt64) raw

def int32 (raw : List UInt8) : Decoded Cell :=
  number 4 (fun n => .int (Int32.ofNat n).toInt64) raw

def int64 (raw : List UInt8) : Decoded Cell := number 8 (fun n => .int (.ofNat n)) raw

/-- The number of an object, without a sign. -/
def oid (raw : List UInt8) : Decoded Cell := number 4 (fun n => .int (.ofNat n)) raw

def float32 (raw : List UInt8) : Decoded Cell :=
  number 4 (fun n => .float (.ofBinary32 n)) raw

def float64 (raw : List UInt8) : Decoded Cell := number 8 (fun n => .float (.ofBits n)) raw

def boolean (raw : List UInt8) : Decoded Cell :=
  match raw with
  | [b] => .ok (.bool (b != 0))
  | _ => .error (.described "invalid buffer size")

/-- A value whose bytes are its text. -/
def text (raw : List UInt8) : Decoded Cell :=
  match Text.Utf8.toString raw with
  | .ok s => .ok (.text s)
  | .error fault => .error (.utf8 fault)

/-- A value that a reader of its own takes apart; what is left over does not count. -/
def own (cell : String → Cell) (read : Option (List Char)) : Decoded Cell :=
  match read with
  | some cs => .ok (cell (String.ofList cs))
  | none => .error (.described "value shorter than its wire format")

def numeric (raw : List UInt8) : Decoded Cell := own .text ((Numeric.read? raw).map Numeric.chars)

def interval (raw : List UInt8) : Decoded Cell :=
  own .text ((Interval.read? raw).map Interval.chars)

def time (raw : List UInt8) : Decoded Cell := own .dateTime (readTime? raw)

def timeTz (raw : List UInt8) : Decoded Cell := own .dateTime (readTimeTz? raw)

/-- A date or a point in time as a cell. -/
def instant (chars? : Option (List Char)) : Decoded Cell :=
  match chars? with
  | some cs => .ok (.dateTime (String.ofList cs))
  | none => .error (.described "value too large to decode")

def date (raw : List UInt8) : Decoded Cell := do
  let n ← exactly 4 "invalid message length: date not drained" raw
  instant (dateChars? (Int32.ofNat n).toInt)

/-- The microseconds of a point in time. -/
def timestampMicros (raw : List UInt8) : Decoded Int := do
  return (Int64.ofNat (← exactly 8 "invalid message length: timestamp not drained" raw)).toInt

def timestamp (raw : List UInt8) : Decoded Cell := do
  instant (timestampChars? (← timestampMicros raw))

/-- A point in time in the zone of universal time. -/
def timestampTz (raw : List UInt8) : Decoded Cell := do
  instant ((timestampChars? (← timestampMicros raw)).map (· ++ ['+', '0', '0']))

def json (raw : List UInt8) : Decoded Cell :=
  match Json.parse raw with
  | .ok v => .ok (.json v)
  | .error fault => .error (.json fault)

/-- JSON behind the number of its encoding, which is one. -/
def jsonb (raw : List UInt8) : Decoded Cell :=
  match raw with
  | [] => .error .unexpectedEnd
  | v :: raw => if v = 1 then json raw else .error (.described "unsupported JSONB encoding version")

def uuid (raw : List UInt8) : Decoded Cell :=
  if raw.length = 16 then
    let hex := raw.flatMap fun b => [Text.hexDigit (b.toNat / 16), Text.hexDigit (b.toNat % 16)]
    let part (start width : Nat) := (hex.drop start).take width
    .ok (.uuid (String.ofList
      (['-'].intercalate [part 0 8, part 8 4, part 12 4, part 16 4, part 20 12])))
  else .error (.described "invalid message length: uuid size mismatch")

/-- The number of items of an array from its dimensions, and what follows them. -/
def arraySize : Nat → Nat → List UInt8 → Decoded (Nat × List UInt8)
  | 0, size, raw => .ok (size, raw)
  | dimensions + 1, size, raw => do
    let some length := field? 4 0 raw | .error .unexpectedEnd
    if 0x80000000 ≤ length then .error (.described "invalid dimension size")
    let some _ := field? 4 4 raw | .error .unexpectedEnd
    if 0x80000000 ≤ size * length then .error (.described "too many array elements")
    arraySize dimensions (size * length) (raw.drop 8)

/-- The items of an array, each behind its length; a negative length is `NULL`. -/
def arrayItems (item : List UInt8 → Decoded Cell) : Nat → List UInt8 → Decoded (List Cell)
  | 0, raw =>
    if raw.isEmpty then .ok []
    else .error (.described "invalid message length: arrayvalue not drained")
  | count + 1, raw => do
    let some length := field? 4 0 raw | .error .unexpectedEnd
    if 0x80000000 ≤ length then .error .wasNull
    let raw := raw.drop 4
    if raw.length < length then .error (.described "invalid value length")
    let cell ← item (raw.take length)
    let cells ← arrayItems item count (raw.drop length)
    return cell :: cells

/-- An array of one dimension, or of none. -/
def array (item : List UInt8 → Decoded Cell) (raw : List UInt8) : Decoded Cell := do
  let some dimensions := field? 4 0 raw | .error .unexpectedEnd
  if 0x80000000 ≤ dimensions then .error (.described "invalid dimension count")
  let some _ := field? 4 4 raw | .error .unexpectedEnd
  let some _ := field? 4 8 raw | .error .unexpectedEnd
  let (size, rest) ← arraySize (min dimensions (raw.length / 8 + 1)) 1 (raw.drop 12)
  if 1 < dimensions then .error (.described "array contains too many dimensions")
  let cells ← arrayItems item (if dimensions = 0 then 0 else size) rest
  return .array cells

/-- The reader of a column type; types that are texts on the wire share one. -/
def reader : ColumnType → List UInt8 → Decoded Cell
  | .smallInt => int16
  | .integer => int32
  | .bigInt => int64
  | .oid => oid
  | .real => float32
  | .double => float64
  | .numeric => numeric
  | .boolean => boolean
  | .json => json
  | .jsonb => jsonb
  | .bytea => fun raw => .ok (.binary raw)
  | .uuid => uuid
  | .timestamp => timestamp
  | .timestampTz => timestampTz
  | .date => date
  | .time => time
  | .timeTz => timeTz
  | .interval => interval
  | .array .text => array text
  | .array .smallInt => array int16
  | .array .integer => array int32
  | .array .bigInt => array int64
  | .array .double => array float64
  | .array _ | .text | .varchar | .char | .unknown _ => text

/-- Whether a column type is read as the text that the value itself is. -/
def isTextual : ColumnType → Bool
  | .text | .varchar | .char | .unknown _ => true
  | .array item => item ∉ [.text, .smallInt, .integer, .bigInt, .double]
  | _ => false

/-- The cell of a value; `NULL` is sent as nothing. A type that is not a text and has no reader is
refused, whatever the value. -/
def decode (type : ServerType) (value? : Option (List UInt8)) : Decoded Cell :=
  if isTextual type.columnType && !type.isText then .error (.wrongType type)
  else
    match value? with
    | none => .ok .null
    | some raw => reader type.columnType raw

end RowCheck.Wire
