import RowCheck.Text.Quoted

/-!
# Faults of JSON texts

What can be wrong with a text that is not JSON, and where the reader stands when it gives up. Places
count lines from one and bytes of a line from zero, so a column is the number of bytes read from the
line.
-/

namespace RowCheck.Json

/-- What is wrong with a text. -/
inductive Defect where
  | listEnds
  | objectEnds
  | stringEnds
  | valueEnds
  | noColon
  | noListComma
  | noObjectComma
  | noWord
  | noValue
  | badEscape
  | badNumber
  | beyondFloats
  | badCodePoint
  /-- A control character stands in a string as itself. -/
  | control
  | keyNotString
  /-- Half a character beyond 16 bits stands without its other half. -/
  | loneHalf
  | trailingComma
  | trailingCharacters
  /-- The first half of a character is not followed by an escape. -/
  | missingHalf
  | tooDeep
  deriving DecidableEq, Repr

namespace Defect

/-- The defect in words. -/
def message : Defect → String
  | listEnds => "EOF while parsing a list"
  | objectEnds => "EOF while parsing an object"
  | stringEnds => "EOF while parsing a string"
  | valueEnds => "EOF while parsing a value"
  | noColon => "expected \x60:\x60"
  | noListComma => "expected \x60,\x60 or \x60]\x60"
  | noObjectComma => "expected \x60,\x60 or \x60\x7d\x60"
  | noWord => "expected ident"
  | noValue => "expected value"
  | badEscape => "invalid escape"
  | badNumber => "invalid number"
  | beyondFloats => "number out of range"
  | badCodePoint => "invalid unicode code point"
  | control => "control character (\\u0000-\\u001F) found while parsing a string"
  | keyNotString => "key must be a string"
  | loneHalf => "lone leading surrogate in hex escape"
  | trailingComma => "trailing comma"
  | trailingCharacters => "trailing characters"
  | missingHalf => "unexpected end of hex escape"
  | tooDeep => "recursion limit exceeded"

end Defect

/-- A defect and its place. -/
structure Fault where
  defect : Defect
  line : Nat
  column : Nat
  deriving DecidableEq, Repr

namespace Fault

/-- The fault of a text of which these characters were read. -/
def after (defect : Defect) (read : List Char) : Fault :=
  ⟨defect, read.count '\n' + 1, (read.reverse.takeWhile (· ≠ '\n')).length⟩

/-- The fault in words. -/
def message (f : Fault) : String := s!"{f.defect.message} at line {f.line} column {f.column}"

/-- The fault as the record it is reported in. -/
def record (f : Fault) : String :=
  s!"Error({Text.quoted f.defect.message}, line: {f.line}, column: {f.column})"

end Fault

end RowCheck.Json
