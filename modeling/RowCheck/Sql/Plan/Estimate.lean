import RowCheck.Sql.Database

/-!
# Estimates

Numbers of rows and costs, as ten times their binary logarithm, rounded. Products of numbers are
sums of estimates; the sum of two numbers is read off a table by the difference of their estimates.
-/

namespace RowCheck.Sql

namespace Estimate

/-- What to add to the greater of two estimates that are so far apart to have their sum. -/
def gain (difference : Nat) : Int :=
  if difference ≤ 1 then 10
  else if difference ≤ 3 then 9
  else if difference ≤ 5 then 8
  else if difference ≤ 8 then 7
  else if difference ≤ 11 then 6
  else if difference ≤ 14 then 5
  else if difference ≤ 18 then 4
  else if difference ≤ 24 then 3
  else if difference ≤ 31 then 2
  else if difference ≤ 49 then 1
  else 0

/-- The estimate of a sum. -/
def add (a b : Int) : Int := max a b + gain (a - b).natAbs

/-- The estimate of a number. -/
def ofNat (n : Nat) : Int :=
  if n < 2 then 0
  else
    let e := n.log2
    let eighths := if 3 ≤ e then n / pow2 (e - 3) % 8 else n * pow2 (3 - e) % 8
    10 * (e : Int) + [0, 2, 3, 5, 6, 7, 8, 9].getD eighths 0

/-- The estimate of the logarithm of a number that is given by its estimate. -/
def log (n : Int) : Int := if n ≤ 10 then 0 else ofNat n.toNat - 33

/-- What a table is thought to hold. -/
def tableRows : Int := 200

/-- How many of so many rows are thought to have given values in the first columns of an index that
has `own` columns itself; just one, if all of these are given. -/
def matching (rows : Int) (own : Nat) : Nat → Int
  | 0 => rows
  | n + 1 => if own ≤ n + 1 then 0 else [33, 32, 30, 28, 27].getD n 23

/-- The digits at the front of a size in a type. -/
def typeSize (cs : List Char) : Option Nat :=
  let digits := (cs.dropWhile fun c => !c.isDigit).takeWhile Char.isDigit
  if digits.isEmpty then none
  else
    let n := Text.ofDigits digits
    some (if n < 0x80000000 then n else 0)

/-- What follows the last place where a word stands in a text. -/
def after? (word : List Char) : List Char → Option (List Char)
  | [] => none
  | c :: cs =>
    match after? word cs with
    | some r => some r
    | none => if word.isPrefixOf (c :: cs) then some ((c :: cs).drop word.length) else none

/-- The width of the values of a column, in units of four bytes: that of a text or a binary is
given by its type, or else it is about twenty bytes. -/
def columnWidth (c : TableColumn) : Nat :=
  match c.declared? with
  | none => 1
  | some type =>
    let cs := Token.lower type.toList
    if isNumeric c.affinity then 1
    else
      let ofSize (cs : List Char) : Nat := min 255 ((typeSize cs).getD 0 / 4 + 1)
      match c.affinity, after? "char".toList cs, after? "blob".toList cs with
      | .text, some r, _ => ofSize r
      | .blob, _, some r => if r.head? = some '(' then ofSize r else 5
      | _, _, _ => 5

/-- The width of the rows of a table. -/
def tableWidth (t : Table) : Int :=
  let columns := t.columns.foldl (fun n c => n + columnWidth c) 0
  ofNat (4 * (columns + if t.key?.isNone then 1 else 0))

/-- The width of the rows of an index. -/
def indexWidth (t : Table) (index : Index) : Int :=
  let columns := index.columns.foldl (fun n (i, _) => n + (t.columns[i]?).elim 1 columnWidth) 0
  ofNat (4 * (columns + 1))

end Estimate

end RowCheck.Sql
