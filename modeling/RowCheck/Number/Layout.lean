import RowCheck.Number.Shortest

/-!
# Layouts of floats

A layout says how the digits of a float are set: which exponents are written positionally, whether
whole numbers carry a fraction, and how the special values are spelt.
-/

namespace RowCheck

/-- How floats are written. -/
structure FloatLayout where
  /-- Which of two equally near digit strings is taken. -/
  tie : Shortest.Tie
  /-- The decimal exponents that are written positionally. -/
  positional : Int → Bool
  /-- What follows a whole number that is written positionally. -/
  whole : List Char

namespace FloatLayout

/-- Cells show all digits, never an exponent, and no fraction on whole numbers. -/
def cell : FloatLayout := ⟨.away, fun _ => true, []⟩

/-- JSON numbers are positional from `1e-5` up to below `1e16`, and whole ones end in `.0`. -/
def json : FloatLayout := ⟨.even, fun e => decide (-5 ≤ e ∧ e ≤ 15), ['.', '0']⟩

/-- A positive decimal number without an exponent. -/
def setPositional (layout : FloatLayout) (d : Shortest.Decimal) : List Char :=
  let ds := Text.decimal d.digits
  if 0 ≤ d.exponent then ds ++ List.replicate d.exponent.toNat '0' ++ layout.whole
  else
    let places := (-d.exponent).toNat
    if places < ds.length then
      ds.take (ds.length - places) ++ '.' :: ds.drop (ds.length - places)
    else '0' :: '.' :: (List.replicate (places - ds.length) '0' ++ ds)

/-- A positive decimal number as one digit, a fraction if there are more, and a signed exponent. -/
def setScientific (d : Shortest.Decimal) : List Char :=
  let ds := Text.decimal d.digits
  let e := d.exponent + ds.length - 1
  let mantissa :=
    match ds with
    | [] => []
    | [c] => [c]
    | c :: cs => c :: '.' :: cs
  mantissa ++ 'e' :: (if e < 0 then '-' else '+') :: Text.decimal e.natAbs

/-- The text of a float. -/
def chars (layout : FloatLayout) (x : Binary64) : List Char :=
  match x.view with
  | .nan => "NaN".toList
  | .infinite negative => if negative then "-inf".toList else "inf".toList
  | .finite negative m q =>
    let sign := if negative then ['-'] else []
    if m = 0 then sign ++ '0' :: layout.whole
    else
      let d := Shortest.shortest layout.tie m q
      let e := d.exponent + (Text.decimal d.digits).length - 1
      sign ++ (if layout.positional e then layout.setPositional d else setScientific d)

end FloatLayout

end RowCheck
