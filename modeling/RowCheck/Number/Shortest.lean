import RowCheck.Number.Binary64
import RowCheck.Text.Digits

/-!
# The fewest digits that read back

Among the decimal numbers that round to a given float, the ones with the fewest digits are those on
the coarsest power of ten that has any; of these the nearest one is taken. A number on that grid
lies in the rounding interval only if one of the float's two neighbours on the grid does, so only
these two are tried.
-/

namespace RowCheck.Shortest

/-- Which of two equally near digit strings is taken. -/
inductive Tie where
  | away
  | even
  deriving DecidableEq, Repr

/-- A positive decimal number: `digits * 10 ^ exponent`. -/
structure Decimal where
  digits : Nat
  exponent : Int
  deriving DecidableEq, Repr

/-- Factors `(a, b)` such that `x * 2 ^ q` compares with `d * 10 ^ k` as `x * a` with `d * b`. -/
def scales (q k : Int) : Nat × Nat :=
  (pow2 q.toNat * pow10 (-k).toNat, pow2 (-q).toNat * pow10 k.toNat)

/-- Whether `d * 10 ^ k` rounds to the float `m * 2 ^ q`: four times the significand is given the
gaps to its neighbours' midpoints, and the midpoints count when the significand is even. -/
def roundsTo (m : Nat) (q k : Int) (d : Nat) : Bool :=
  let (a, b) := scales (q - 2) k
  let below := if m = 0x10000000000000 ∧ -1074 < q then 4 * m - 1 else 4 * m - 2
  let above := 4 * m + 2
  if m % 2 = 0 then below * a ≤ d * b && d * b ≤ above * a
  else below * a < d * b && d * b < above * a

/-- The number on the grid `10 ^ k` nearest to `m * 2 ^ q` among the neighbours that round to it. -/
def candidate (tie : Tie) (m : Nat) (q k : Int) : Option Nat :=
  let (a, b) := scales q k
  let d := m * a / b
  match roundsTo m q k d && 0 < d, roundsTo m q k (d + 1) with
  | true, true =>
    let low := m * a - d * b
    let high := (d + 1) * b - m * a
    if low < high then some d
    else if high < low then some (d + 1)
    else
      match tie with
      | .away => some (d + 1)
      | .even => some (d + d % 2)
  | true, false => some d
  | false, true => some (d + 1)
  | false, false => none

/-- The candidate on the coarsest grid from `10 ^ k` downwards that has one. -/
def coarsest (tie : Tie) (m : Nat) (q : Int) : Nat → Int → Decimal
  | 0, k => ⟨(candidate tie m q k).getD 0, k⟩
  | fuel + 1, k =>
    match candidate tie m q k with
    | some d => ⟨d, k⟩
    | none => coarsest tie m q fuel (k - 1)

/-- The shortest decimal number that rounds to `m * 2 ^ q`. The search starts above the float's own
magnitude and needs at most seventeen digits below it. -/
def shortest (tie : Tie) (m : Nat) (q : Int) : Decimal :=
  coarsest tie m q 24 (((m.log2 : Int) + q) * 30103 / 100000 + 2)

end RowCheck.Shortest
