import RowCheck.Number.Power

/-!
# Binary floating point with 53 significant bits

A 64-bit float as its three fields, its exact value, and the float nearest to a quotient of natural
numbers. All arithmetic is exact arithmetic on quotients followed by one rounding, ties to even.
-/

namespace RowCheck

/-- A 64-bit float: sign, biased exponent and fraction. -/
structure Binary64 where
  negative : Bool
  exponent : Fin 2048
  fraction : Fin 0x10000000000000
  deriving DecidableEq, Repr

/-- The quotient `num / den` rounded to the nearest natural number, a tie to the even one. -/
def nearestNat (num den : Nat) : Nat :=
  let q := num / den
  let r := num % den
  if 2 * r < den then q else if den < 2 * r then q + 1 else q + q % 2

/-- The quotient `num / den` in units of `2 ^ q`, rounded to the nearest. -/
def nearestUnits (num den : Nat) (q : Int) : Nat :=
  if 0 ≤ q then nearestNat num (den * pow2 q.toNat) else nearestNat (num * pow2 (-q).toNat) den

/-- The floor of the binary logarithm of `num / den`, both positive. -/
def log2Ratio (num den : Nat) : Int :=
  let k : Int := (num.log2 : Int) - den.log2
  let reached := if 0 ≤ k then den * pow2 k.toNat ≤ num else den ≤ num * pow2 (-k).toNat
  if reached then k else k - 1

namespace Binary64

/-- What a float stands for. A finite one is `m * 2 ^ q`, negated if `negative`. -/
inductive View where
  | nan
  | infinite (negative : Bool)
  | finite (negative : Bool) (m : Nat) (q : Int)
  deriving DecidableEq, Repr

def view (x : Binary64) : View :=
  if x.exponent.val = 2047 then
    if x.fraction.val = 0 then .infinite x.negative else .nan
  else if x.exponent.val = 0 then .finite x.negative x.fraction.val (-1074)
  else .finite x.negative (0x10000000000000 + x.fraction.val) ((x.exponent.val : Int) - 1075)

/-- The float with these 64 bits. -/
def ofBits (w : Nat) : Binary64 where
  negative := w / 0x8000000000000000 % 2 == 1
  exponent := Fin.ofNat 2048 (w / 0x10000000000000)
  fraction := Fin.ofNat 0x10000000000000 w

/-- The 64 bits of a float. -/
def toBits (x : Binary64) : Nat :=
  (if x.negative then 0x8000000000000000 else 0) + x.exponent.val * 0x10000000000000 + x.fraction.val

def zero (negative : Bool) : Binary64 := ⟨negative, 0, 0⟩

def infinity (negative : Bool) : Binary64 := ⟨negative, 2047, 0⟩

def nan : Binary64 := ⟨false, 2047, Fin.ofNat 0x10000000000000 0x8000000000000⟩

def isNan (x : Binary64) : Bool := x.view == .nan

def isInfinite (x : Binary64) : Bool :=
  match x.view with
  | .infinite _ => true
  | _ => false

def isZero (x : Binary64) : Bool := x.exponent == 0 && x.fraction == 0

def neg (x : Binary64) : Binary64 := { x with negative := !x.negative }

/-- The float `m * 2 ^ q` for a significand of at most 53 bits whose unit is not below the least;
beyond the greatest float it is infinite. -/
def ofUnits (negative : Bool) (m : Nat) (q : Int) : Binary64 :=
  let (m, q) := if m = 0x20000000000000 then (0x10000000000000, q + 1) else (m, q)
  if m < 0x10000000000000 then ⟨negative, 0, Fin.ofNat 0x10000000000000 m⟩
  else if q + 1075 < 2047 then
    ⟨negative, Fin.ofNat 2048 (q + 1075).toNat, Fin.ofNat 0x10000000000000 (m - 0x10000000000000)⟩
  else infinity negative

/-- The float nearest to `num / den`, ties to even. -/
def ofRatio (negative : Bool) (num den : Nat) : Binary64 :=
  if num = 0 ∨ den = 0 then zero negative
  else
    let q := max (log2Ratio num den - 52) (-1074)
    ofUnits negative (nearestUnits num den q) q

/-- The float nearest to an integer. -/
def ofInt (i : Int) : Binary64 := ofRatio (decide (i < 0)) i.natAbs 1

/-- The magnitude of `m * 2 ^ q` as a quotient. -/
def ratio (m : Nat) (q : Int) : Nat × Nat :=
  if 0 ≤ q then (m * pow2 q.toNat, 1) else (m, pow2 (-q).toNat)

/-- The float that a 32-bit float denotes. -/
def ofBinary32 (w : Nat) : Binary64 :=
  let negative := w / 0x80000000 % 2 == 1
  let e : Nat := w / 0x800000 % 256
  let f : Nat := w % 0x800000
  if e = 255 then if f = 0 then infinity negative else nan
  else
    let (m, q) : Nat × Int := if e = 0 then (f, -149) else (0x800000 + f, (e : Int) - 150)
    let (num, den) := ratio m q
    ofRatio negative num den

def mul (x y : Binary64) : Binary64 :=
  match x.view, y.view with
  | .nan, _ | _, .nan => nan
  | .infinite s, .infinite t => infinity (s != t)
  | .infinite s, .finite t m _ | .finite s m _, .infinite t =>
    if m = 0 then nan else infinity (s != t)
  | .finite s m q, .finite t n r =>
    let (num, den) := ratio (m * n) (q + r)
    ofRatio (s != t) num den

def div (x y : Binary64) : Binary64 :=
  match x.view, y.view with
  | .nan, _ | _, .nan => nan
  | .infinite _, .infinite _ => nan
  | .infinite s, .finite t _ _ => infinity (s != t)
  | .finite s _ _, .infinite t => zero (s != t)
  | .finite s m q, .finite t n r =>
    if n = 0 then if m = 0 then nan else infinity (s != t)
    else
      let (num, den) := ratio m (q - r)
      ofRatio (s != t) num (den * n)

/-- The signed significand of a finite float at a common, lower unit. -/
private def signedUnits (negative : Bool) (m : Nat) (q unit : Int) : Int :=
  let v : Int := m * pow2 (q - unit).toNat
  if negative then -v else v

def add (x y : Binary64) : Binary64 :=
  match x.view, y.view with
  | .nan, _ | _, .nan => nan
  | .infinite s, .infinite t => if s = t then infinity s else nan
  | .infinite s, .finite _ _ _ | .finite _ _ _, .infinite s => infinity s
  | .finite s m q, .finite t n r =>
    let unit := min q r
    let total := signedUnits s m q unit + signedUnits t n r unit
    if total = 0 then zero (s && t)
    else
      let (num, den) := ratio total.natAbs unit
      ofRatio (decide (total < 0)) num den

def sub (x y : Binary64) : Binary64 := add x y.neg

/-- The integer that a float equals, if it is one. -/
def toInt? (x : Binary64) : Option Int :=
  match x.view with
  | .finite negative m q =>
    let (num, den) := ratio m q
    if num % den = 0 then
      let v : Int := (num / den : Nat)
      some (if negative then -v else v)
    else none
  | _ => none

/-- The integer part of a float, kept within 64 signed bits; zero for what is no number. -/
def truncate (x : Binary64) : Int :=
  match x.view with
  | .nan => 0
  | .infinite negative => if negative then -0x8000000000000000 else 0x8000000000000000 - 1
  | .finite negative m q =>
    let (num, den) := ratio m q
    let v : Int := (num / den : Nat)
    if negative then max (-v) (-0x8000000000000000) else min v (0x8000000000000000 - 1)

/-- The order of numbers; what is no number comes before all of them. -/
def compare (x y : Binary64) : Ordering :=
  let key : Binary64 → Int × Int × Int := fun z =>
    match z.view with
    | .nan => (-2, 0, 0)
    | .infinite s => (if s then -1 else 1, 0, 0)
    | .finite s m q => (0, if s then -(m : Int) else m, q)
  match key x, key y with
  | (0, m, q), (0, n, r) =>
    let unit := min q r
    Ord.compare (m * pow2 (q - unit).toNat) (n * pow2 (r - unit).toNat)
  | (a, _, _), (b, _, _) => Ord.compare a b

end Binary64

end RowCheck
