import RowCheck.Text.Escaped

/-!
# Quoted texts

A text in double quotes on one line: quotes, backslashes and the usual controls are escaped with a
backslash, and every other character that cannot be shown is written as its number in hexadecimal.
-/

namespace RowCheck.Text

/-- A digit of a hexadecimal number, in lower case. -/
def hexDigit (n : Nat) : Char := if n < 10 then Char.ofNat (48 + n) else Char.ofNat (87 + n)

/-- A number in hexadecimal, in lower case and with no leading zero. -/
def hexadecimal (n : Nat) : List Char :=
  if n < 16 then [hexDigit n] else hexadecimal (n / 16) ++ [hexDigit (n % 16)]
termination_by n
decreasing_by omega

/-- How one character stands inside quotes. -/
def escapeChar (c : Char) : List Char :=
  if c = '"' then ['\\', '"']
  else if c = '\\' then ['\\', '\\']
  else if c = '\n' then ['\\', 'n']
  else if c = '\r' then ['\\', 'r']
  else if c = '\t' then ['\\', 't']
  else if c = '\x00' then ['\\', '0']
  else if isEscaped c then ['\\', 'u', '\x7b'] ++ hexadecimal c.toNat ++ ['\x7d']
  else [c]

/-- A text in double quotes. -/
def quotedChars (s : List Char) : List Char := '"' :: s.flatMap escapeChar ++ ['"']

/-- A text in double quotes. -/
def quoted (s : String) : String := String.ofList (quotedChars s.toList)

end RowCheck.Text
