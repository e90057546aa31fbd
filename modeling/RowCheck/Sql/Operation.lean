import RowCheck.Sql.Syntax
import RowCheck.Sql.Error

/-!
# Operations on values

What operators, comparisons and functions make of values, and how lists of values are compared.
-/

namespace RowCheck.Sql

/-- The functions of single values. -/
inductive ScalarFunction where
  | abs
  | char
  | max
  | min
  deriving DecidableEq

/-- The functions of all values of a column. -/
inductive AggregateFunction where
  | countRows
  | count
  | max
  | min
  deriving DecidableEq

/-- Whether values of an affinity are numbers where they can be. -/
def isNumeric : Affinity → Bool
  | .integer | .real | .numeric => true
  | .text | .blob => false

namespace Value

/-- A truth value; unknown is `NULL`. -/
def ofTruth : Option Bool → Value
  | none => .null
  | some b => .ofBool b

/-- Sum, difference or product of two numbers. -/
def arithmetic (onInt : Int → Int → Int) (onReal : Binary64 → Binary64 → Binary64)
    (a b : Value) : Value :=
  match a.operand, b.operand with
  | .null, _ | _, .null => .null
  | .int i, .int j =>
    let r := onInt i.toInt j.toInt
    if fitsInt64 r then .int (.ofInt r)
    else .ofReal (onReal (.ofInt i.toInt) (.ofInt j.toInt))
  | _, _ => .ofReal (onReal a.toReal b.toReal)

/-- A number behind a minus sign. -/
def negate (v : Value) : Value := arithmetic (· - ·) .sub (.int 0) v

/-- A quotient; of integers its whole part, and `NULL` by zero. -/
def divide (a b : Value) : Value :=
  match a.operand, b.operand with
  | .null, _ | _, .null => .null
  | .int i, .int j =>
    if j = 0 then .null
    else
      let r := i.toInt.tdiv j.toInt
      if fitsInt64 r then .int (.ofInt r) else .ofReal (.div (.ofInt i.toInt) (.ofInt j.toInt))
  | _, _ => if b.toReal.isZero then .null else .ofReal (.div a.toReal b.toReal)

/-- The remainder of two whole parts, a float if one of the numbers is. -/
def remainder (a b : Value) : Value :=
  match a.operand, b.operand with
  | .null, _ | _, .null => .null
  | x, y =>
    if b.toInt = 0 then .null
    else
      let r := a.toInt.tmod b.toInt
      match x, y with
      | .int _, .int _ => .int (.ofInt r)
      | _, _ => .real (.ofInt r)

/-- A value as a side of a comparison that converts to an affinity. -/
def convert (affinity? : Option Affinity) (other v : Value) : Value :=
  let isText : Value → Bool
    | .text _ => true
    | _ => false
  match affinity? with
  | none | some .blob => v
  | some .text => if isText other || isText v then v.store .text else v
  | some _ =>
    match v with
    | .text bytes => (numberOfText? bytes).getD v
    | v => v

/-- The order of two values in a comparison. -/
def compareAs (affinity? : Option Affinity) (a b : Value) : Ordering :=
  (convert affinity? b a).order (convert affinity? a b)

end Value

namespace Operator

/-- Whether an operator compares. -/
def isComparison : Operator → Bool
  | .eq | .ne | .is | .isNot | .lt | .le | .gt | .ge => true
  | _ => false

/-- The comparison with its sides exchanged. -/
def exchanged : Operator → Operator
  | .lt => .gt
  | .le => .ge
  | .gt => .lt
  | .ge => .le
  | op => op

/-- The value of an operator; a comparison converts both sides to an affinity if one is given. -/
def apply (op : Operator) (affinity? : Option Affinity) (a b : Value) : Value :=
  let comparison (holds : Ordering → Bool) : Value :=
    if a = .null ∨ b = .null then .null else .ofBool (holds (Value.compareAs affinity? a b))
  match op with
  | .or =>
    match a.truth?, b.truth? with
    | some true, _ | _, some true => .ofBool true
    | some false, some false => .ofBool false
    | _, _ => .null
  | .and =>
    match a.truth?, b.truth? with
    | some false, _ | _, some false => .ofBool false
    | some true, some true => .ofBool true
    | _, _ => .null
  | .eq => comparison (· == .eq)
  | .ne => comparison (· != .eq)
  | .lt => comparison (· == .lt)
  | .le => comparison (· != .gt)
  | .gt => comparison (· == .gt)
  | .ge => comparison (· != .lt)
  | .is => .ofBool (Value.compareAs affinity? a b == .eq)
  | .isNot => .ofBool (Value.compareAs affinity? a b != .eq)
  | .add => Value.arithmetic (· + ·) .add a b
  | .sub => Value.arithmetic (· - ·) .sub a b
  | .mul => Value.arithmetic (· * ·) .mul a b
  | .div => Value.divide a b
  | .rem => Value.remainder a b
  | .concat => if a = .null ∨ b = .null then .null else .text (a.textOf ++ b.textOf)

end Operator

namespace ScalarFunction

/-- The value that takes its place at the end if each value takes it from the one before it when
its order to that one is right; `NULL` if one of the values is. -/
def extreme (takes : Ordering → Bool) : List Value → Value
  | [] => .null
  | v :: vs =>
    if (v :: vs).contains .null then .null
    else vs.foldl (fun best v => if takes (v.order best) then v else best) v

/-- The character of a number as bytes; what is no code point becomes the replacement character. -/
def charBytes (n : Int) : List UInt8 :=
  if n < 0 ∨ 0x10FFFF < n then Text.Utf8.encodeNat 0xFFFD else Text.Utf8.encodeNat n.toNat

/-- The error of a number that leaves the range of integers while a statement runs. -/
def overflow : Error := .failed .error "integer overflow"

/-- The value of a function. A float that is not below zero stays as it is, a negative zero too. -/
def apply (fn : ScalarFunction) (args : List Value) : Except Error Value :=
  match fn with
  | .abs =>
    match args with
    | [.null] => .ok .null
    | [.int i] =>
      if i.toInt = -0x8000000000000000 then .error overflow
      else .ok (.int (.ofInt i.toInt.natAbs))
    | [v] =>
      let x := v.toReal
      .ok (.real (if x.isZero then x else { x with negative := false }))
    | _ => .ok .null
  | .char => .ok (.text (args.flatMap fun v => charBytes v.toInt))
  | .max => .ok (extreme (· == .gt) args)
  | .min => .ok (extreme (· != .gt) args)

end ScalarFunction

/-- The values of a row, or those by which rows are compared. -/
abbrev Values := List Value

namespace Values

/-- Whether two lists of values are equal. -/
def equal : Values → Values → Bool
  | [], [] => true
  | a :: as, b :: bs => a.order b == .eq && equal as bs
  | _, _ => false

/-- The order of lists of values, of which the `i`-th values may be compared downwards. -/
def compare : List Bool → Values → Values → Ordering
  | down :: downs, a :: as, b :: bs =>
    match if down then (a.order b).swap else a.order b with
    | .eq => compare downs as bs
    | o => o
  | _, _, _ => .eq

end Values

/-- Leaves out what has the same key as something before it. -/
def dedupeBy {α : Type} (key : α → Values) (rows : List α) : List α :=
  (rows.foldl (fun kept r =>
    if kept.any fun k => Values.equal (key k) (key r) then kept else r :: kept) []).reverse

/-- Sorts by keys; what has equal keys keeps its order. -/
def sortBy {α : Type} (down : List Bool) (key : α → Values) (rows : List α) : List α :=
  rows.mergeSort fun a b => Values.compare down (key a) (key b) != .gt

end RowCheck.Sql
