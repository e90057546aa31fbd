import RowCheck.Wire.Bytes
import RowCheck.Text.Digits

/-!
# Decimal numbers of the server

The binary form of `numeric`: groups of four decimal digits around a weight, and the number of
decimal places to show. The text shows every digit and exactly that many places.
-/

namespace RowCheck.Wire

/-- A decimal number of the server. -/
inductive Numeric where
  | nan
  | infinity (negative : Bool)
  /-- The sum of `groups[i] * 10000 ^ (weight - i)`, shown with `scale` decimal places. -/
  | finite (negative : Bool) (groups : List Nat) (weight : Int16) (scale : Nat)
  deriving DecidableEq

namespace Numeric

/-- Reads a number: how many groups follow, the weight, the sign, the scale, and the groups. -/
def read? (raw : List UInt8) : Option Numeric := do
  let count ← field? 2 0 raw
  let weight ← field? 2 2 raw
  let sign ← field? 2 4 raw
  let scale ← field? 2 6 raw
  if sign = 0xC000 then return .nan
  if sign = 0xD000 then return .infinity false
  if sign = 0xF000 then return .infinity true
  let groups ← (List.range count).mapM fun i => field? 2 (8 + 2 * i) raw
  return .finite (sign == 0x4000) groups (.ofNat weight) scale

/-- The binary form of a number. -/
def bytes : Numeric → List UInt8
  | .nan => bytesOf 2 0 ++ bytesOf 2 0 ++ bytesOf 2 0xC000 ++ bytesOf 2 0
  | .infinity negative =>
    bytesOf 2 0 ++ bytesOf 2 0 ++ bytesOf 2 (if negative then 0xF000 else 0xD000) ++ bytesOf 2 0
  | .finite negative groups weight scale =>
    bytesOf 2 groups.length ++ bytesOf 2 weight.toUInt16.toNat
      ++ bytesOf 2 (if negative then 0x4000 else 0) ++ bytesOf 2 scale
      ++ groups.flatMap (bytesOf 2)

/-- The group at an index; beyond both ends there are zeros. -/
def groupAt (groups : List Nat) (i : Int) : Nat :=
  if 0 ≤ i then groups.getD i.toNat 0 else 0

/-- The digits before the decimal point. -/
def wholeChars (groups : List Nat) (weight : Int) : List Char :=
  if weight < 0 then ['0']
  else
    Text.decimal (groupAt groups 0)
      ++ (List.range weight.toNat).flatMap fun i : Nat =>
        Text.padded 4 (groupAt groups (i + 1))

/-- The digits after the decimal point while they are collected, and the index of the group that
comes next. -/
structure Fraction where
  digits : Array Char
  next : Int

namespace Fraction

/-- No digits yet; the group at the weight is the last one in front of the point. -/
def start (weight : Int) : Fraction := ⟨#[], weight + 1⟩

@[simp] theorem size_digits_start (weight : Int) : (start weight).digits.size = 0 := rfl

@[simp] theorem next_start (weight : Int) : (start weight).next = weight + 1 := rfl

/-- Adds the next group. -/
def push (groups : List Nat) (f : Fraction) : Fraction :=
  ⟨f.digits ++ Text.padded 4 (groupAt groups f.next), f.next + 1⟩

@[simp] theorem next_push (groups : List Nat) (f : Fraction) : (f.push groups).next = f.next + 1 :=
  rfl

@[simp] theorem toList_digits_push (groups : List Nat) (f : Fraction) :
    (f.push groups).digits.toList = f.digits.toList ++ Text.padded 4 (groupAt groups f.next) :=
  Array.toList_appendList

theorem le_size_push (groups : List Nat) (f : Fraction) :
    f.digits.size + 4 ≤ (f.push groups).digits.size := by
  rw [← Array.length_toList, ← Array.length_toList, toList_digits_push, List.length_append]
  exact Nat.add_le_add_left (Text.le_length_padded 4 _) _

/-- Adds groups as long as digits are missing. -/
def fill (groups : List Nat) (scale : Nat) (f : Fraction) : Fraction :=
  if f.digits.size < scale then fill groups scale (f.push groups) else f
termination_by scale - f.digits.size
decreasing_by
  have := f.le_size_push groups
  omega

end Fraction

/-- The digits after the decimal point: those of enough groups, cut at the scale. -/
def fractionChars (groups : List Nat) (weight : Int) (scale : Nat) : List Char :=
  ((Fraction.start weight).fill groups scale).digits.toList.take scale

/-- The text of a number. -/
def chars : Numeric → List Char
  | .nan => "NaN".toList
  | .infinity negative => if negative then "-Infinity".toList else "Infinity".toList
  | .finite negative groups weight scale =>
    (if negative then ['-'] else []) ++ wholeChars groups weight.toInt
      ++ if scale = 0 then [] else '.' :: fractionChars groups weight.toInt scale

end Numeric

end RowCheck.Wire
