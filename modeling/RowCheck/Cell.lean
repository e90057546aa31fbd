import RowCheck.Json.Printer

/-!
# Cells

The values that a query returns, and the text of each one: the form in which the backend itself
reports it, without shortening and without formatting of its own.
-/

namespace RowCheck

/-- A value in one column of one row. -/
inductive Cell where
  | null
  | int (i : Int64)
  | float (x : Binary64)
  | text (s : String)
  | bool (b : Bool)
  | json (v : Json)
  | binary (bytes : List UInt8)
  /-- A date or a time, as the backend writes it. -/
  | dateTime (s : String)
  | uuid (s : String)
  | array (items : List Cell)
  deriving Inhabited

namespace Cell

/-- Whether a cell is `NULL`. -/
def isNull : Cell → Bool
  | .null => true
  | _ => false

mutual

/-- The text of a cell. -/
def chars : Cell → List Char
  | .null => "NULL".toList
  | .int i => Text.intChars i.toInt
  | .float x => FloatLayout.cell.chars x
  | .text s | .dateTime s | .uuid s => s.toList
  | .bool b => if b then "true".toList else "false".toList
  | .json v => v.chars
  | .binary bytes => "<binary ".toList ++ Text.decimal bytes.length ++ " bytes>".toList
  | .array [] => ['\x7b', '\x7d']
  | .array (v :: vs) => '\x7b' :: (chars v ++ itemChars vs)

/-- The items of an array after the first one, each led by a comma, and the closing brace. -/
def itemChars : List Cell → List Char
  | [] => ['\x7d']
  | v :: vs => ',' :: (chars v ++ itemChars vs)

end

/-- The text of a cell. -/
def display (c : Cell) : String := String.ofList c.chars

end Cell

end RowCheck
