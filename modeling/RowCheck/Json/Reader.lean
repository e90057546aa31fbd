import RowCheck.Json.Basic
import RowCheck.Json.Fault
import RowCheck.Text.Digits
import RowCheck.Text.Utf8

/-!
# Reading JSON

A reader for whole JSON texts, given as bytes. Arrays and objects nest at most 127 deep, integers
beyond 64 bits become floats, and a number beyond the floats is refused. Only strings can hold bytes
outside ASCII, and the bytes of one are looked at when its closing quote is found.

Floats are scaled in float arithmetic: as many digits as fit 64 bits are taken as an integer, which
is rounded to a float and then multiplied or divided by a power of ten.

While a text is read its bytes stand as the characters of their numbers.
-/

namespace RowCheck.Json

/-- Reading that stops at a defect, with what is left of the text there. A part of a text is read
together with what follows it. -/
abbrev Reading := Except (Defect × List Char)

/-- Appends digits to a significand while it stays within 64 bits, and counts them. -/
def absorbDigits : Nat → List Char → Nat × Nat
  | s, [] => (s, 0)
  | s, c :: cs =>
    if 0x10000000000000000 ≤ 10 * s + Text.digitValue c then (s, 0)
    else
      let (s, n) := absorbDigits (10 * s + Text.digitValue c) cs
      (s, n + 1)

/-- A float times `10 ^ exponent`; nothing when that is beyond the floats. -/
def scaled (x : Binary64) (exponent : Int) : Option Binary64 :=
  if 308 < exponent then if x.isZero then some x else none
  else if 0 ≤ exponent then
    let y := x.mul (.ofRatio false (pow10 exponent.toNat) 1)
    if y.isInfinite then none else some y
  else some (divide 8 x (-exponent).toNat)
where
  /-- Divides by `10 ^ k`, in steps of at most `10 ^ 308`. -/
  divide : Nat → Binary64 → Nat → Binary64
    | 0, x, _ => x
    | fuel + 1, x, k =>
      if k ≤ 308 then x.div (.ofRatio false (pow10 k) 1)
      else divide fuel (x.div (.ofRatio false (pow10 308) 1)) (k - 308)

/-- The exponent after an `e`, as its sign and digits. -/
def readExponent (s : List Char) : Reading ((Bool × List Char) × List Char) :=
  let (negative, s) :=
    match s with
    | '+' :: r => (false, r)
    | '-' :: r => (true, r)
    | r => (false, r)
  match s with
  | [] => .error (.valueEnds, [])
  | c :: r =>
    if Text.isDigit c then .ok ((negative, s.takeWhile Text.isDigit), s.dropWhile Text.isDigit)
    else .error (.badNumber, r)

/-- The digits that follow the first ones whose number is beyond 31 bits; none if there are no such
ones. `n` is the number of the digits before. -/
def beyondWord (n : Nat) : List Char → List Char
  | [] => []
  | c :: cs =>
    let n := 10 * n + Text.digitValue c
    if 0x80000000 ≤ n then cs else beyondWord n cs

/-- The float of a significand, an exponent from its digits, and a written exponent. -/
def floatOf (negative : Bool) (significand : Nat) (exponent : Int) (written : Bool × List Char) :
    Option Binary64 :=
  let e := Text.ofDigits written.2
  let x? :=
    if 0x80000000 ≤ e then
      if significand ≠ 0 ∧ !written.1 then none else some (.zero false)
    else scaled (.ofInt significand) (if written.1 then exponent - e else exponent + e)
  x?.map fun x => if negative then x.neg else x

/-- A float after its whole digits and its fraction: the exponent, if one is written. -/
def readFloat (negative : Bool) (significand : Nat) (exponent : Int) (s : List Char) :
    Reading (JsonNumber × List Char) := do
  let (written, s) ←
    match s with
    | 'e' :: r | 'E' :: r => readExponent r
    | r => .ok ((false, []), r)
  match floatOf negative significand exponent written with
  | some x => .ok (.float x, s)
  | none => .error (.beyondFloats, beyondWord 0 written.2 ++ s)

/-- A number after its sign. -/
def readNumber (negative : Bool) (s : List Char) : Reading (JsonNumber × List Char) :=
  let digits := s.takeWhile Text.isDigit
  match digits with
  | [] => if s.isEmpty then .error (.valueEnds, []) else .error (.badNumber, s.drop 1)
  | '0' :: _ :: _ => .error (.badNumber, s.drop 2)
  | whole =>
    let s := s.dropWhile Text.isDigit
    let (significand, taken) := absorbDigits 0 whole
    let exponent : Int := whole.length - taken
    match s with
    | '.' :: r =>
      let fraction := r.takeWhile Text.isDigit
      if fraction.isEmpty then .error (if r.isEmpty then .valueEnds else .badNumber, r.drop 1)
      else
        let (significand, taken) := absorbDigits significand fraction
        readFloat negative significand (exponent - taken) (r.dropWhile Text.isDigit)
    | 'e' :: _ | 'E' :: _ => readFloat negative significand exponent s
    | _ =>
      if taken < whole.length then readFloat negative significand exponent s
      else if !negative then .ok (.integer significand, s)
      else if significand = 0 ∨ 0x8000000000000000 < significand then
        .ok (.float (Binary64.ofInt significand).neg, s)
      else .ok (.integer (-(significand : Int)), s)

/-- The value of a hexadecimal digit. -/
def hexValue (c : Char) : Option Nat :=
  if Text.isDigit c then some (Text.digitValue c)
  else if 'a' ≤ c ∧ c ≤ 'f' then some (c.toNat - 87)
  else if 'A' ≤ c ∧ c ≤ 'F' then some (c.toNat - 55)
  else none

/-- Four hexadecimal digits. -/
def readHex4 : List Char → Reading (Nat × List Char)
  | a :: b :: c :: d :: r =>
    match hexValue a, hexValue b, hexValue c, hexValue d with
    | some a, some b, some c, some d => .ok (a * 4096 + b * 256 + c * 16 + d, r)
    | _, _, _, _ => .error (.badEscape, r)
  | _ => .error (.stringEnds, [])

/-- A character that the second half of an escape begins with. -/
def readMark (mark : Char) : List Char → Reading (List Char)
  | [] => .error (.stringEnds, [])
  | c :: r => if c = mark then .ok r else .error (.missingHalf, r)

/-- The bytes of a code point. -/
def bytesOf (n : Nat) : List Char := (Text.Utf8.encodeNat n).map fun b => .ofNat b.toNat

/-- The bytes that an escape stands for, after its backslash. A character beyond 16 bits is written
as two halves. -/
def readEscape : List Char → Reading (List Char × List Char)
  | [] => .error (.stringEnds, [])
  | '"' :: r => .ok (['"'], r)
  | '\\' :: r => .ok (['\\'], r)
  | '/' :: r => .ok (['/'], r)
  | 'b' :: r => .ok (['\x08'], r)
  | 'f' :: r => .ok (['\x0c'], r)
  | 'n' :: r => .ok (['\n'], r)
  | 'r' :: r => .ok (['\r'], r)
  | 't' :: r => .ok (['\t'], r)
  | 'u' :: r => do
    let (high, r) ← readHex4 r
    if 0xDC00 ≤ high ∧ high ≤ 0xDFFF then .error (.loneHalf, r)
    else if 0xD800 ≤ high ∧ high ≤ 0xDBFF then do
      let (low, r) ← readHex4 (← readMark 'u' (← readMark '\\' r))
      if 0xDC00 ≤ low ∧ low ≤ 0xDFFF then
        .ok (bytesOf (0x10000 + (high - 0xD800) * 0x400 + (low - 0xDC00)), r)
      else .error (.loneHalf, r)
    else .ok (bytesOf high, r)
  | _ :: r => .error (.badEscape, r)

/-- The bytes of a string up to its closing quote. -/
def readBytes : Nat → List Char → Reading (List Char × List Char)
  | 0, _ | _, [] => .error (.stringEnds, [])
  | fuel + 1, c :: r =>
    if c = '"' then .ok ([], r)
    else if c = '\\' then do
      let (bytes, r) ← readEscape r
      let (more, r) ← readBytes fuel r
      return (bytes ++ more, r)
    else if c.toNat < 0x20 then .error (.control, r)
    else do
      let (more, r) ← readBytes fuel r
      return (c :: more, r)

/-- A string after its opening quote. -/
def readString (s : List Char) : Reading (String × List Char) := do
  let (bytes, r) ← readBytes (s.length + 1) s
  match Text.Utf8.toString (bytes.map fun c => .ofNat c.toNat) with
  | .ok content => .ok (content, r)
  | .error _ => .error (.badCodePoint, r)

/-- The letters of a word. -/
def readWord : List Char → List Char → Reading (List Char)
  | [], r => .ok r
  | _, [] => .error (.valueEnds, [])
  | w :: word, c :: r => if c = w then readWord word r else .error (.noWord, r)

/-- The blanks of JSON. -/
def isSpace (c : Char) : Bool := c == ' ' || c == '\n' || c == '\t' || c == '\r'

def skipSpace (s : List Char) : List Char := s.dropWhile isSpace

mutual

/-- A value, nesting at most `depth` deep. -/
def readValue : Nat → Nat → List Char → Reading (Json × List Char)
  | 0, _, _ => .error (.valueEnds, [])
  | fuel + 1, depth, s =>
    match skipSpace s with
    | [] => .error (.valueEnds, [])
    | 'n' :: r => (readWord ['u', 'l', 'l'] r).map fun r => (.null, r)
    | 't' :: r => (readWord ['r', 'u', 'e'] r).map fun r => (.bool true, r)
    | 'f' :: r => (readWord ['a', 'l', 's', 'e'] r).map fun r => (.bool false, r)
    | '"' :: r => (readString r).map fun (s, r) => (.text s, r)
    | '-' :: r => (readNumber true r).map fun (n, r) => (.number n, r)
    | '[' :: r =>
      if depth = 0 then .error (.tooDeep, r)
      else
        match skipSpace r with
        | [] => .error (.listEnds, [])
        | ']' :: r => .ok (.array [], r)
        | r => (readItems fuel (depth - 1) r).map fun (vs, r) => (.array vs, r)
    | '\x7b' :: r =>
      if depth = 0 then .error (.tooDeep, r)
      else
        match skipSpace r with
        | [] => .error (.objectEnds, [])
        | '\x7d' :: r => .ok (.object [], r)
        | r => (readMembers fuel (depth - 1) [] r).map fun (ms, r) => (.object ms, r)
    | c :: r =>
      if Text.isDigit c then (readNumber false (c :: r)).map fun (n, r) => (.number n, r)
      else .error (.noValue, r)

/-- One or more items and the closing bracket. -/
def readItems : Nat → Nat → List Char → Reading (List Json × List Char)
  | 0, _, _ => .error (.listEnds, [])
  | fuel + 1, depth, s => do
    let (v, r) ← readValue fuel depth s
    match skipSpace r with
    | [] => .error (.listEnds, [])
    | ']' :: r => .ok ([v], r)
    | ',' :: r =>
      match skipSpace r with
      | [] => .error (.valueEnds, [])
      | ']' :: r => .error (.trailingComma, r)
      | r => (readItems fuel depth r).map fun (vs, r) => (v :: vs, r)
    | _ :: r => .error (.noListComma, r)

/-- One or more members and the closing brace, added to those already read. -/
def readMembers : Nat → Nat → List (String × Json) → List Char →
    Reading (List (String × Json) × List Char)
  | 0, _, _, _ | _, _, _, [] => .error (.objectEnds, [])
  | fuel + 1, depth, members, '"' :: r => do
    let (key, r) ← readString r
    match skipSpace r with
    | [] => .error (.objectEnds, [])
    | ':' :: r => do
      let (v, r) ← readValue fuel depth r
      let members := putMember key v members
      match skipSpace r with
      | [] => .error (.objectEnds, [])
      | '\x7d' :: r => .ok (members, r)
      | ',' :: r =>
        match skipSpace r with
        | [] => .error (.valueEnds, [])
        | '\x7d' :: r => .error (.trailingComma, r)
        | r => readMembers fuel depth members r
      | _ :: r => .error (.noObjectComma, r)
    | _ :: r => .error (.noColon, r)
  | _, _, _, _ :: r => .error (.keyNotString, r)

end

/-- A whole text: one value, with nothing but blanks after it. -/
def readAll (s : List Char) : Reading Json := do
  let (v, r) ← readValue (2 * s.length + 2) 127 s
  match skipSpace r with
  | [] => .ok v
  | _ :: r => .error (.trailingCharacters, r)

/-- The value of a whole JSON text. -/
def parse (bytes : List UInt8) : Except Fault Json :=
  let s : List Char := bytes.map fun b => .ofNat b.toNat
  (readAll s).mapError fun (defect, left) => .after defect (s.take (s.length - left.length))

end RowCheck.Json
