import RowCheck.Number.Extended
import RowCheck.Text.Digits

/-!
# Numbers in texts

How the engine reads a number at the front of a text: a sign, digits, a fraction and an exponent,
with spaces around them. What follows decides whether the whole text counts as a number.
-/

namespace RowCheck.Sql

/-- The spaces that may stand around a number. -/
def isSpace (c : Char) : Bool := c == ' ' || (9 ≤ c.toNat && c.toNat ≤ 13)

/-- A number at the front of a text. -/
structure NumberText where
  negative : Bool
  /-- The digits before the point. -/
  whole : List Char
  /-- The digits after the point, if there is a point. -/
  fraction? : Option (List Char)
  /-- The exponent, if there is an `e`: its sign and its digits. -/
  exponent? : Option (Bool × List Char)
  /-- What follows the number and its spaces. -/
  rest : List Char

namespace NumberText

/-- The sign in front of digits, and what follows it. -/
def sign : List Char → Bool × List Char
  | '-' :: r => (true, r)
  | '+' :: r => (false, r)
  | r => (false, r)

/-- Takes a text apart. -/
def read (s : List Char) : NumberText :=
  let (negative, s) := sign (s.dropWhile isSpace)
  let whole := s.takeWhile Text.isDigit
  let s := s.dropWhile Text.isDigit
  let (fraction?, s) : Option (List Char) × List Char :=
    match s with
    | '.' :: r => (some (r.takeWhile Text.isDigit), r.dropWhile Text.isDigit)
    | r => (none, r)
  let (exponent?, s) : Option (Bool × List Char) × List Char :=
    match s with
    | 'e' :: r | 'E' :: r =>
      let (down, r) := sign r
      (some (down, r.takeWhile Text.isDigit), r.dropWhile Text.isDigit)
    | r => (none, r)
  ⟨negative, whole, fraction?, exponent?, s.dropWhile isSpace⟩

/-- Whether there is a digit before the exponent. -/
def hasDigits (t : NumberText) : Bool := !t.whole.isEmpty || t.fraction?.any (!·.isEmpty)

/-- Whether the exponent, if there is one, has digits. -/
def exponentValid (t : NumberText) : Bool := t.exponent?.all (!·.2.isEmpty)

/-- Whether there is neither a point nor an exponent. -/
def isWhole (t : NumberText) : Bool := t.fraction?.isNone && t.exponent?.isNone

/-- Whether the whole text is a number. -/
def isComplete (t : NumberText) : Bool := t.hasDigits && t.exponentValid && t.rest.isEmpty

/-- Appends digits to a significand until it is close to 64 bits; the digits left over are counted
by the second component. -/
def absorb : Nat → List Char → Nat × Nat
  | s, [] => (s, 0)
  | s, c :: cs =>
    if (0x10000000000000000 - 10) / 10 ≤ s then (s, cs.length + 1)
    else absorb (10 * s + Text.digitValue c) cs

/-- The significand and the power of ten of the number. Digits beyond 64 bits are dropped. -/
def scaled (t : NumberText) : Nat × Int :=
  let (s, excess) := absorb 0 t.whole
  let fraction := t.fraction?.getD []
  let (s, unread) := absorb s fraction
  let e : Int :=
    match t.exponent? with
    | none => 0
    | some (down, ds) =>
      let e : Int := min (Text.ofDigits ds) 10000
      if down then -e else e
  (s, e + excess - ((fraction.length : Int) - unread))

/-- The float that is read. -/
def toBinary64 (t : NumberText) : Binary64 :=
  let (s, e) := t.scaled
  Extended.ofDecimal t.negative s e

/-- The integer that the digits before the point spell. -/
def wholeValue (t : NumberText) : Int :=
  let n : Int := Text.ofDigits t.whole
  if t.negative then -n else n

end NumberText

/-- Whether an integer fits 64 bits. -/
def fitsInt64 (i : Int) : Bool := decide (-0x8000000000000000 ≤ i ∧ i < 0x8000000000000000)

end RowCheck.Sql
