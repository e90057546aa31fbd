import RowCheck.Sql.NumberText
import RowCheck.ColumnType
import RowCheck.Text.Utf8

/-!
# Values of the engine

The five kinds of values, their order, and their conversions: by the affinity of the column that
stores or is compared with them, and by arithmetic. Texts are kept as bytes, since not every text
that an expression makes is UTF-8.
-/

namespace RowCheck.Sql

/-- A value of the engine. -/
inductive Value where
  | null
  | int (i : Int64)
  | real (x : Binary64)
  | text (bytes : List UInt8)
  | blob (bytes : List UInt8)
  deriving DecidableEq

namespace Value

/-- The text of a string. -/
def ofString (s : String) : Value := .text (Text.Utf8.ofString s)

/-- A float as a value; what is no number is `NULL`. -/
def ofReal (x : Binary64) : Value := if x.isNan then .null else .real x

def ofBool (b : Bool) : Value := .int (if b then 1 else 0)

/-- An integer as a value; beyond 64 bits it becomes a float. -/
def ofInt (i : Int) : Value := if fitsInt64 i then .int (.ofInt i) else .real (.ofInt i)

/-- Bytes as characters of the same numbers, to look for digits in them. -/
def asChars (bytes : List UInt8) : List Char := bytes.map fun b => Char.ofNat b.toNat

/-- The bytes of a number's text. -/
def textOf : Value → List UInt8
  | .null => []
  | .int i => Text.Utf8.encode (Text.intChars i.toInt)
  | .real x => Text.Utf8.encode (Extended.chars x)
  | .text bytes | .blob bytes => bytes

/-- A float that equals an integer strictly within 64 bits becomes that integer. -/
def integral (x : Binary64) : Value :=
  match x.toInt? with
  | some i => if -0x8000000000000000 < i ∧ i < 0x8000000000000000 - 1 then .int (.ofInt i) else .real x
  | none => .real x

/-- The number that a text is, if the whole of it is one: an integer if it is written as one and
fits, else a float. -/
def numberOfText? (bytes : List UInt8) : Option Value :=
  let t := NumberText.read (asChars bytes)
  if !t.isComplete then none
  else if t.isWhole && fitsInt64 t.wholeValue then some (.int (.ofInt t.wholeValue))
  else some (.real t.toBinary64)

/-- The number that a value becomes in a numeric column. -/
def toNumeric : Value → Value
  | .real x => integral x
  | .text bytes =>
    match numberOfText? bytes with
    | some (.real x) => integral x
    | some v => v
    | none => .text bytes
  | v => v

/-- A value as it is stored in a column of an affinity. -/
def store (affinity : Affinity) (v : Value) : Value :=
  match affinity with
  | .blob => v
  | .text =>
    match v with
    | .int _ | .real _ => .text v.textOf
    | v => v
  | .integer | .numeric => v.toNumeric
  | .real =>
    match v.toNumeric with
    | .int i => .real (.ofInt i.toInt)
    | v => v

/-- The order of numbers. -/
def compareNumbers : Value → Value → Ordering
  | .int i, .int j => compare i.toInt j.toInt
  | .int i, .real y => compareInt i.toInt y
  | .real x, .int j => (compareInt j.toInt x).swap
  | .real x, .real y => x.compare y
  | _, _ => .eq
where
  /-- The order of an integer and a float, both taken exactly. -/
  compareInt (i : Int) (y : Binary64) : Ordering :=
    match y.view with
    | .nan => .gt
    | .infinite negative => if negative then .gt else .lt
    | .finite negative m q =>
      let m : Int := if negative then -(m : Int) else m
      compare (i * pow2 (-q).toNat) (m * pow2 q.toNat)

/-- The order of bytes. -/
def compareBytes : List UInt8 → List UInt8 → Ordering
  | [], [] => .eq
  | [], _ :: _ => .lt
  | _ :: _, [] => .gt
  | a :: as, b :: bs => if a < b then .lt else if b < a then .gt else compareBytes as bs

/-- The place of a kind of values in the order of all values. -/
def rank : Value → Nat
  | .null => 0
  | .int _ | .real _ => 1
  | .text _ => 2
  | .blob _ => 3

/-- The order of values: `NULL`, numbers, texts, binaries. -/
def order (a b : Value) : Ordering :=
  match a, b with
  | .text x, .text y | .blob x, .blob y => compareBytes x y
  | a, b => if a.rank ≠ b.rank then compare a.rank b.rank else compareNumbers a b

/-- The number that a value counts as in arithmetic: the one at the front of a text. `NULL` stays.
-/
def operand : Value → Value
  | .text bytes | .blob bytes =>
    let t := NumberText.read (asChars bytes)
    let whole := t.isWhole || !t.hasDigits || (t.fraction?.isNone && !t.exponentValid)
    if whole && fitsInt64 t.wholeValue then .int (.ofInt t.wholeValue) else .real t.toBinary64
  | v => v

/-- A value as a float. A minus sign at the front of a text counts also where no digits follow it.
-/
def toReal : Value → Binary64
  | .int i => .ofInt i.toInt
  | .real x => x
  | .text bytes | .blob bytes => (NumberText.read (asChars bytes)).toBinary64
  | .null => .zero false

/-- A value as an integer: the digits at the front of a text, the whole part of a float, within 64
bits. -/
def toInt (v : Value) : Int :=
  match v with
  | .int i => i.toInt
  | .real x => x.truncate
  | .text bytes | .blob bytes =>
    max (-0x8000000000000000) (min (NumberText.read (asChars bytes)).wholeValue (0x8000000000000000 - 1))
  | .null => 0

/-- Whether a value counts as true; nothing for `NULL`. -/
def truth? (v : Value) : Option Bool :=
  match v with
  | .null => none
  | .int i => some (i ≠ 0)
  | v => some !v.toReal.isZero

/-- A value converted to a type that is named by its affinity. -/
def cast (affinity : Affinity) (v : Value) : Value :=
  match v with
  | .null => .null
  | v =>
    match affinity with
    | .blob => .blob v.textOf
    | .text => .text v.textOf
    | .integer => .int (.ofInt v.toInt)
    | .real => .real v.toReal
    | .numeric =>
      match v with
      | .text _ | .blob _ =>
        match v.operand with
        | .real x =>
          match x.toInt? with
          | some i => if -0x8000000000000 ≤ i ∧ i < 0x8000000000000 then .int (.ofInt i) else .real x
          | none => .real x
        | v => v
      | v => v

end Value

end RowCheck.Sql
