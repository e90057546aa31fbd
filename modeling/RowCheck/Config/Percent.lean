import RowCheck.Text.Utf8
import RowCheck.Text.Quoted

/-!
# Percent encoding

A percent sign and two hexadecimal digits stand for a byte; a percent sign before anything else
stands for itself.
-/

namespace RowCheck.Config.Percent

/-- The value of a hexadecimal digit, as a byte of a text. -/
def hexValue (b : UInt8) : Option Nat :=
  let n := b.toNat
  if 48 ≤ n ∧ n ≤ 57 then some (n - 48)
  else if 65 ≤ n ∧ n ≤ 70 then some (n - 55)
  else if 97 ≤ n ∧ n ≤ 102 then some (n - 87)
  else none

/-- Replaces the encoded bytes. -/
def decodeBytes : List UInt8 → List UInt8
  | [] => []
  | [a] => [a]
  | [a, b] => [a, b]
  | a :: b :: c :: r =>
    if a = 0x25 then
      match hexValue b, hexValue c with
      | some h, some l => .ofNat (16 * h + l) :: decodeBytes r
      | _, _ => a :: decodeBytes (b :: c :: r)
    else a :: decodeBytes (b :: c :: r)

/-- The text that an encoded text stands for, if its bytes are UTF-8. -/
def decode? (s : List Char) : Option (List Char) :=
  (Text.Utf8.decode (decodeBytes (Text.Utf8.encode s))).toOption

/-- ASCII letters and digits. -/
def isPlain (b : UInt8) : Bool :=
  let n := b.toNat
  (48 ≤ n && n ≤ 57) || (65 ≤ n && n ≤ 90) || (97 ≤ n && n ≤ 122)

/-- How a byte is written: letters and digits stand for themselves. -/
def encodeByte (b : UInt8) : List Char :=
  if isPlain b then [Char.ofNat b.toNat]
  else ['%', Text.hexDigit (b.toNat / 16), Text.hexDigit (b.toNat % 16)]

/-- The encoded form of a text. -/
def encode (s : List Char) : List Char := (Text.Utf8.encode s).flatMap encodeByte

end RowCheck.Config.Percent
