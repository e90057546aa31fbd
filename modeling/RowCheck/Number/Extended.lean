import RowCheck.Number.Binary64
import RowCheck.Text.Digits

/-!
# Decimal texts through 64-bit significands

The in-process engine reads and writes floats by multiplying with powers of ten in a format of 64
significant bits, rounding after each step. `ofDecimal` reads, `digits15` writes at most fifteen
digits, a five in the sixteenth going up.
-/

namespace RowCheck

/-- A non-negative number `m * 2 ^ q` with a significand of at most 64 bits. -/
structure Extended where
  m : Nat
  q : Int
  deriving DecidableEq, Repr

namespace Extended

/-- The number of 64 significant bits nearest to `num / den`. -/
def ofRatio (num den : Nat) : Extended :=
  if num = 0 ∨ den = 0 then ⟨0, 0⟩
  else
    let q := log2Ratio num den - 63
    ⟨nearestUnits num den q, q⟩

def ofNat (n : Nat) : Extended := ofRatio n 1

/-- The nearest number to `10 ^ k`. -/
def tenPow (k : Int) : Extended :=
  if 0 ≤ k then ofRatio (pow10 k.toNat) 1 else ofRatio 1 (pow10 (-k).toNat)

def mul (x y : Extended) : Extended :=
  let (num, den) := Binary64.ratio (x.m * y.m) (x.q + y.q)
  ofRatio num den

/-- Whether a number is at least `num / den`. -/
def atLeast (x : Extended) (num den : Nat) : Bool :=
  let (n, d) := Binary64.ratio x.m x.q
  num * d ≤ n * den

def floor (x : Extended) : Nat :=
  let (n, d) := Binary64.ratio x.m x.q
  n / d

def toBinary64 (negative : Bool) (x : Extended) : Binary64 :=
  let (n, d) := Binary64.ratio x.m x.q
  Binary64.ofRatio negative n d

/-- Multiplies `n` times. -/
def mulTimes (y : Extended) : Nat → Extended → Extended
  | 0, x => x
  | n + 1, x => mulTimes y n (x.mul y)

/-- A number times `10 ^ e`, in hundreds, tens and ones of the exponent, each step rounded. -/
def scaleTen (x : Extended) (e : Int) : Extended :=
  let n := e.natAbs
  let s : Int := if e < 0 then -1 else 1
  mulTimes (tenPow s) (n % 10)
    (mulTimes (tenPow (10 * s)) (n % 100 / 10) (mulTimes (tenPow (100 * s)) (n / 100) x))

/-- Moves factors of ten from a positive exponent into the significand while it fits. -/
def absorb : Nat → Nat → Int → Nat × Int
  | 0, s, e => (s, e)
  | fuel + 1, s, e =>
    if 0 < e ∧ s < (0x10000000000000000 - 1) / 10 then absorb fuel (s * 10) (e - 1)
    else if e < 0 ∧ s % 10 = 0 then absorb fuel (s / 10) (e + 1)
    else (s, e)

/-- Whether a number is above the greatest finite float. -/
def exceedsFinite (x : Extended) : Bool :=
  let (num, den) := Binary64.ratio x.m x.q
  !atLeast ⟨0x1FFFFFFFFFFFFF, 971⟩ num den

/-- The float for `significand * 10 ^ exponent`, the significand below `2 ^ 64`. What is above the
greatest finite float is infinite, however close it is. -/
def ofDecimal (negative : Bool) (significand : Nat) (exponent : Int) : Binary64 :=
  if significand = 0 then .zero negative
  else
    let (s, e) := absorb 24 significand exponent
    if e = 0 then .ofRatio negative s 1
    else
      let r := (ofNat s).scaleTen (min 10000 (max (-10000) e))
      if r.exceedsFinite then .infinity negative else r.toBinary64 negative

/-- Brings a positive number into the range from `1e17` to `1e19` in steps of the given powers,
counting the exponent that it lost. -/
def shrink : Nat → Extended → Int → Extended × Int
  | 0, x, e => (x, e)
  | fuel + 1, x, e =>
    if x.atLeast (pow10 119) 1 then shrink fuel (x.mul (tenPow (-100))) (e + 100)
    else if x.atLeast (pow10 29) 1 then shrink fuel (x.mul (tenPow (-10))) (e + 10)
    else if x.atLeast (pow10 19) 1 then shrink fuel (x.mul (tenPow (-1))) (e + 1)
    else if !x.atLeast 1 (pow10 97) then shrink fuel (x.mul (tenPow 100)) (e - 100)
    else if !x.atLeast (pow10 7) 1 then shrink fuel (x.mul (tenPow 10)) (e - 10)
    else if !x.atLeast (pow10 17) 1 then shrink fuel (x.mul (tenPow 1)) (e - 1)
    else (x, e)

/-- At most fifteen significant digits of a positive finite float `m * 2 ^ q` without trailing
zeros, and the place of the decimal point before which they begin. -/
def digits15 (m : Nat) (q : Int) : List Char × Int :=
  let (x, e) := shrink 64 (ofRatio (Binary64.ratio m q).1 (Binary64.ratio m q).2) 0
  let ds := Text.decimal x.floor
  let point := ds.length + e
  let (v, point) : Nat × Int :=
    if 15 < ds.length then
      let head := Text.ofDigits (ds.take 15)
      let next := Text.digitValue (ds.getD 15 '0')
      let rounded := if 5 ≤ next then head + 1 else head
      (rounded, if rounded = pow10 15 then point + 1 else point)
    else (x.floor, point)
  (((Text.decimal v).reverse.dropWhile (· == '0')).reverse, point)

/-- A float with at most fifteen digits: positional from `1e-4` to below `1e15`, with at least one
digit after the point, else with an exponent of a sign and at least two digits. -/
def chars (x : Binary64) : List Char :=
  match x.view with
  | .nan => "NaN".toList
  | .infinite negative => if negative then "-Inf".toList else "Inf".toList
  | .finite negative m q =>
    if m = 0 then "0.0".toList
    else
      let sign := if negative then ['-'] else []
      let (ds, point) := digits15 m q
      let e := point - 1
      let orZero (cs : List Char) := if cs.isEmpty then ['0'] else cs
      if e < -4 ∨ 14 < e then
        sign ++ ds.take 1 ++ '.' :: orZero (ds.drop 1)
          ++ 'e' :: (if e < 0 then '-' else '+') :: Text.padded 2 e.natAbs
      else if point ≤ 0 then
        sign ++ '0' :: '.' :: (List.replicate (-point).toNat '0' ++ ds)
      else
        let n := point.toNat
        sign ++ (ds.take n ++ List.replicate (n - ds.length) '0') ++ '.' :: orZero (ds.drop n)

end Extended

end RowCheck
