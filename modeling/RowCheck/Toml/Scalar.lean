import RowCheck.Toml.Basic
import RowCheck.Number.Binary64
import RowCheck.Text.Digits
import RowCheck.Text.Split

/-!
# TOML scalars without quotes

Integers in four bases, floats, booleans, dates and times, each from its whole lexeme.
-/

namespace RowCheck.Toml

/-- The digits of a group list: underscores stand only between two digits. -/
def ungroup (ok : Char → Bool) : List Char → Option (List Char)
  | [] => none
  | c :: cs => if ok c then (more cs).map (c :: ·) else none
where
  more : List Char → Option (List Char)
    | [] => some []
    | '_' :: c :: cs => if ok c then (more cs).map (c :: ·) else none
    | c :: cs => if ok c then (more cs).map (c :: ·) else none

/-- The value of a digit of a base up to sixteen. -/
def digitOf (c : Char) : Option Nat :=
  if Text.isDigit c then some (Text.digitValue c)
  else if 'a' ≤ c ∧ c ≤ 'f' then some (c.toNat - 87)
  else if 'A' ≤ c ∧ c ≤ 'F' then some (c.toNat - 55)
  else none

/-- The number of a list of digits of a base. -/
def ofBase (base : Nat) (cs : List Char) : Nat :=
  cs.foldl (fun n c => base * n + (digitOf c).getD 0) 0

/-- The sign of a number, and the rest. -/
def splitSign : List Char → Bool × List Char
  | '-' :: cs => (true, cs)
  | '+' :: cs => (false, cs)
  | cs => (false, cs)

/-- Digits without a superfluous leading zero. -/
def wholeDigits (cs : List Char) : Option (List Char) := do
  let ds ← ungroup Text.isDigit cs
  if ds.head? = some '0' ∧ 1 < ds.length then none else some ds

/-- Whether an integer fits 64 bits. -/
def within64 (i : Int) : Bool := decide (-0x8000000000000000 ≤ i ∧ i < 0x8000000000000000)

/-- An integer, in one of four bases, that fits 64 bits. -/
def integer? (lexeme : List Char) : Option Int := do
  let inBase (base : Nat) (cs : List Char) : Option Int := do
    let ds ← ungroup (fun c => (digitOf c).any (· < base)) cs
    return (ofBase base ds : Nat)
  let i ←
    match lexeme with
    | '0' :: 'x' :: cs => inBase 16 cs
    | '0' :: 'o' :: cs => inBase 8 cs
    | '0' :: 'b' :: cs => inBase 2 cs
    | cs => do
      let (negative, cs) := splitSign cs
      let n : Int := Text.ofDigits (← wholeDigits cs)
      pure (if negative then -n else n)
  if within64 i then some i else none

/-- Whether a positive decimal number is beyond the floats. -/
def overflows (digits : List Char) (exponent : Int) : Bool :=
  let m := Text.ofDigits digits
  if m = 0 then false
  else
    let magnitude := exponent + (Text.decimal m).length
    if 310 < magnitude then true
    else if magnitude < 300 then false
    else
      (Binary64.ofRatio false (m * pow10 exponent.toNat) (pow10 (-exponent).toNat)).isInfinite

/-- Whether a lexeme is a float. -/
def isFloat (lexeme : List Char) : Bool :=
  let (negative, cs) := splitSign lexeme
  if cs = "inf".toList ∨ cs = "nan".toList then true
  else
    let (mantissa, exponent?) :=
      match cs.span (fun c => c ≠ 'e' ∧ c ≠ 'E') with
      | (m, []) => (m, none)
      | (m, _ :: e) => (m, some e)
    let (whole, fraction?) :=
      match Text.cutFirst '.' mantissa with
      | some (w, f) => (w, some f)
      | none => (mantissa, none)
    if exponent?.isNone ∧ fraction?.isNone then false
    else
      let parts : Option (List Char × Int) := do
        let w ← wholeDigits whole
        let f ← fraction?.elim (some []) (ungroup Text.isDigit)
        let (down, e) := splitSign (exponent?.getD ['0'])
        let e : Int := Text.ofDigits (← ungroup Text.isDigit e)
        return (w ++ f, (if down then -e else e) - f.length)
      match parts with
      | some (ds, e) => negative || !overflows ds e
      | none => false

/-- A number of exactly `width` digits within bounds. -/
def fixed (width lo hi : Nat) (cs : List Char) : Option (Nat × List Char) :=
  let ds := cs.take width
  let n := Text.ofDigits ds
  if ds.length = width ∧ ds.all Text.isDigit ∧ lo ≤ n ∧ n ≤ hi then some (n, cs.drop width)
  else none

def daysInMonth (year month : Nat) : Nat :=
  if month = 2 then
    if year % 4 = 0 ∧ (year % 100 ≠ 0 ∨ year % 400 = 0) then 29 else 28
  else if month ∈ [4, 6, 9, 11] then 30
  else 31

/-- A date at the front of a text. -/
def date? (cs : List Char) : Option (List Char) := do
  let (year, cs) ← fixed 4 0 9999 cs
  let '-' :: cs := cs | none
  let (month, cs) ← fixed 2 1 12 cs
  let '-' :: cs := cs | none
  let (_, cs) ← fixed 2 1 (daysInMonth year month) cs
  return cs

/-- A time at the front of a text. -/
def time? (cs : List Char) : Option (List Char) := do
  let (_, cs) ← fixed 2 0 23 cs
  let ':' :: cs := cs | none
  let (_, cs) ← fixed 2 0 59 cs
  let ':' :: cs := cs | none
  let (_, cs) ← fixed 2 0 60 cs
  match cs with
  | '.' :: cs =>
    if (cs.takeWhile Text.isDigit).isEmpty then none else some (cs.dropWhile Text.isDigit)
  | _ => some cs

/-- Whether a text is the offset of a zone, or empty. -/
def isOffset : List Char → Bool
  | [] => true
  | ['Z'] | ['z'] => true
  | c :: cs =>
    (c == '+' || c == '-') &&
      match fixed 2 0 23 cs with
      | some (_, ':' :: cs) => (fixed 2 0 59 cs).any fun r => r.2.isEmpty
      | _ => false

/-- Whether a lexeme is a date, a time or both, the zone's offset only after both. -/
def isDateTime (lexeme : List Char) : Bool :=
  match date? lexeme with
  | some [] => true
  | some (c :: cs) => (c == 'T' || c == 't' || c == ' ') && (time? cs).any isOffset
  | none => (time? lexeme).any List.isEmpty

/-- The value of a lexeme. -/
def scalar? (lexeme : List Char) : Option Toml :=
  if lexeme = "true".toList then some (.boolean true)
  else if lexeme = "false".toList then some (.boolean false)
  else if isDateTime lexeme then some (.dateTime (String.ofList lexeme))
  else if isFloat lexeme then some (.float (String.ofList lexeme))
  else (integer? lexeme).map .integer

end RowCheck.Toml
