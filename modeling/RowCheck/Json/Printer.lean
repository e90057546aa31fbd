import RowCheck.Json.Basic
import RowCheck.Number.Layout
import RowCheck.Text.Quoted

/-!
# The compact text of a JSON value

No blanks; in texts only the quote, the backslash and the controls below the space are escaped.
-/

namespace RowCheck.Json

/-- How one character stands in a JSON text. -/
def escapeChar (c : Char) : List Char :=
  if c = '"' then ['\\', '"']
  else if c = '\\' then ['\\', '\\']
  else if c = '\n' then ['\\', 'n']
  else if c = '\r' then ['\\', 'r']
  else if c = '\t' then ['\\', 't']
  else if c = '\x08' then ['\\', 'b']
  else if c = '\x0c' then ['\\', 'f']
  else if c.toNat < 0x20 then
    ['\\', 'u', '0', '0', Text.hexDigit (c.toNat / 16), Text.hexDigit (c.toNat % 16)]
  else [c]

/-- A text as a JSON string. -/
def stringChars (s : String) : List Char := '"' :: s.toList.flatMap escapeChar ++ ['"']

/-- The text of a number. -/
def numberChars : JsonNumber → List Char
  | .integer i => Text.intChars i
  | .float x => FloatLayout.json.chars x

mutual

/-- The compact text of a value. -/
def chars : Json → List Char
  | .null => "null".toList
  | .bool b => if b then "true".toList else "false".toList
  | .number n => numberChars n
  | .text s => stringChars s
  | .array [] => "[]".toList
  | .array (v :: vs) => '[' :: (chars v ++ itemChars vs)
  | .object [] => ['\x7b', '\x7d']
  | .object ((k, v) :: ms) => '\x7b' :: (stringChars k ++ ':' :: (chars v ++ memberChars ms))

/-- The items after the first one, each led by a comma, and the closing bracket. -/
def itemChars : List Json → List Char
  | [] => [']']
  | v :: vs => ',' :: (chars v ++ itemChars vs)

/-- The members after the first one, each led by a comma, and the closing brace. -/
def memberChars : List (String × Json) → List Char
  | [] => ['\x7d']
  | (k, v) :: ms => ',' :: (stringChars k ++ ':' :: (chars v ++ memberChars ms))

end

end RowCheck.Json
