import RowCheck.Sql.NumberText
import RowCheck.Text.Utf8

/-!
# Tokens of statements

The words, names, literals and signs of a statement. A token keeps the blanks and comments before
it and its byte offset, so that the text of a part of a statement can be given back as it was
written. The text of a statement ends at a NUL.
-/

namespace RowCheck.Sql

/-- The sorts of tokens. -/
inductive TokenKind where
  /-- A word without quotes: a keyword or a name. -/
  | word
  /-- A name in quotes of some kind. -/
  | name (text : List Char) (doubleQuoted : Bool)
  | string (text : List Char)
  | integer
  | float
  /-- A number with underscores between its digits. -/
  | separated
  | blob (bytes : List UInt8)
  | parameter
  | sign
  /-- Characters that are no token. -/
  | unrecognized
  /-- The end of the statement's text. -/
  | finish
  deriving DecidableEq

/-- A token of a statement. -/
structure Token where
  kind : TokenKind
  /-- The token as it is written. -/
  chars : List Char
  /-- The blanks and comments before it. -/
  gap : List Char
  /-- How many bytes of the text come before the token. -/
  offset : Nat
  deriving DecidableEq

namespace Token

/-- Characters that begin a word. -/
def isWordStart (c : Char) : Bool := c.isAlpha || c == '_' || 0x80 ≤ c.toNat

/-- Characters that go on with a word. -/
def isWordChar (c : Char) : Bool := isWordStart c || c.isDigit || c == '$'

/-- How many characters of blanks and comments a text begins with. -/
def blankLength : Nat → List Char → Nat
  | 0, _ => 0
  | fuel + 1, s =>
    match s with
    | '-' :: '-' :: r =>
      let n := (r.takeWhile (· ≠ '\n')).length
      2 + n + blankLength fuel (r.drop n)
    | '/' :: '*' :: r =>
      let n := closing r
      2 + n + blankLength fuel (r.drop n)
    | c :: r =>
      if c = '\x0b' then 0
      else if isSpace c then
        let n := (r.takeWhile isSpace).length
        1 + n + blankLength fuel (r.drop n)
      else if c = '\uFEFF' then 1 + blankLength fuel r
      else 0
    | [] => 0
where
  /-- How many characters there are up to the end of a comment. -/
  closing : List Char → Nat
    | '*' :: '/' :: _ => 2
    | _ :: r => 1 + closing r
    | [] => 0

/-- What stands in quotes that are doubled to stand for themselves, and the rest after the closing
quote. -/
def readQuoted (quote : Char) : List Char → Option (List Char × List Char)
  | [] => none
  | c :: r =>
    if c = quote then
      match r with
      | [] => some ([], [])
      | d :: r' =>
        if d = quote then (readQuoted quote r').map fun p => (quote :: p.1, p.2)
        else some ([], d :: r')
    else (readQuoted quote r).map fun p => (c :: p.1, p.2)

/-- How many characters the number at the front of a text has, and its kind. Underscores may follow
the first digit of each run of digits, wherever they stand. -/
def scanNumber (s : List Char) : Nat × TokenKind :=
  match s with
  | '0' :: x :: d :: _ =>
    if (x = 'x' ∨ x = 'X') ∧ isHex d then
      finish (2 + ((s.drop 2).takeWhile fun c => isHex c || c == '_').length) .integer
    else decimal
  | _ => decimal
where
  isHex (c : Char) : Bool :=
    c.isDigit || ('a' ≤ c && c ≤ 'f') || ('A' ≤ c && c ≤ 'F')
  /-- The length of a run of digits and underscores. -/
  run (s : List Char) : Nat := (s.takeWhile fun c => c.isDigit || c == '_').length
  finish (n : Nat) (kind : TokenKind) : Nat × TokenKind :=
    (n, if (s.take n).contains '_' then .separated else kind)
  decimal : Nat × TokenKind :=
    let whole := run s
    let (n, kind) : Nat × TokenKind :=
      match s.drop whole with
      | '.' :: r => (whole + 1 + run r, .float)
      | _ => (whole, .integer)
    match s.drop n with
    | e :: r =>
      let signed : Nat :=
        match r with
        | '+' :: _ | '-' :: _ => 1
        | _ => 0
      if (e = 'e' ∨ e = 'E') ∧ (r.drop signed).head?.any Char.isDigit then
        finish (n + 1 + signed + run (r.drop signed)) .float
      else finish n kind
    | [] => finish n kind

/-- The bytes of a list of hexadecimal digits. -/
def hexBytes : List Char → List UInt8
  | a :: b :: r => .ofNat (16 * value a + value b) :: hexBytes r
  | _ => []
where
  value (c : Char) : Nat :=
    if c.isDigit then c.toNat - 48 else if 'a' ≤ c then c.toNat - 87 else c.toNat - 55

/-- The signs of two characters. -/
def doubleSigns : List (List Char) :=
  ["==", "<>", "<=", "<<", ">=", ">>", "!=", "||", "->"].map String.toList

/-- The kind of the token at the front of a text, and how many characters it has. -/
def scan (s : List Char) : TokenKind × Nat :=
  match s with
  | [] => (.finish, 0)
  | c :: r =>
    if c = '\'' ∨ c = '"' ∨ c = '\x60' then
      match readQuoted c r with
      | some (text, rest) =>
        (if c = '\'' then .string text else .name text (c == '"'), s.length - rest.length)
      | none => (.unrecognized, s.length)
    else if c = '[' then
      let text := r.takeWhile (· ≠ ']')
      if text.length < r.length then (.name text false, text.length + 2)
      else (.unrecognized, s.length)
    else if c.isDigit || (c == '.' && (r.head?.any Char.isDigit)) then
      let (n, kind) := scanNumber s
      let junk := ((s.drop n).takeWhile isWordChar).length
      (if junk ≠ 0 then .unrecognized else kind, n + junk)
    else if (c = 'x' ∨ c = 'X') ∧ r.head? = some '\'' then
      let digits := (r.drop 1).takeWhile scanNumber.isHex
      let n := 2 + digits.length
      if digits.length % 2 = 0 ∧ (s.drop n).head? = some '\'' then (.blob (hexBytes digits), n + 1)
      else
        let n := n + ((s.drop n).takeWhile (· ≠ '\'')).length
        (.unrecognized, min (n + 1) s.length)
    else if isWordStart c then (.word, 1 + (r.takeWhile isWordChar).length)
    else if c = '?' then (.parameter, 1 + (r.takeWhile Char.isDigit).length)
    else if c ∈ ['$', '@', '#', ':'] then
      let n := (r.takeWhile isWordChar).length
      (if n = 0 then .unrecognized else .parameter, n + 1)
    else if s.take 3 = ['-', '>', '>'] then (.sign, 3)
    else if s.take 2 ∈ doubleSigns then (.sign, 2)
    else if c ∈ ['-', '(', ')', ';', '+', '*', '/', '%', '=', '<', '>', '|', ',', '&', '~', '.'] then
      (.sign, 1)
    else (.unrecognized, 1)

/-- The number of bytes of a text. -/
def byteLength (s : List Char) : Nat := (Text.Utf8.encode s).length

/-- The tokens of a text that begins at a byte offset; the last one marks the end. -/
def scanAll : Nat → Nat → List Char → List Token
  | 0, offset, _ => [⟨.finish, [], [], offset⟩]
  | fuel + 1, offset, s =>
    let blank := blankLength (s.length + 1) s
    let gap := s.take blank
    let s := s.drop blank
    let offset := offset + byteLength gap
    let (kind, n) := scan s
    let chars := s.take n
    let token : Token := ⟨kind, chars, gap, offset⟩
    if kind = .finish then [token]
    else token :: scanAll fuel (offset + byteLength chars) (s.drop n)

/-- The tokens of a statement's text. -/
def ofText (sql : String) : List Token :=
  let s := sql.toList.takeWhile (· ≠ '\x00')
  scanAll (s.length + 1) 0 s

/-- A text in lower case, as far as ASCII goes. -/
def lower (s : List Char) : List Char := s.map Char.toLower

/-- Whether a token is a keyword; letter case does not count. -/
def isKeyword (keyword : String) (t : Token) : Bool :=
  t.kind == .word && lower t.chars == keyword.toList

/-- Whether a token is a sign. -/
def isSign (sign : String) (t : Token) : Bool := t.kind == .sign && t.chars == sign.toList

/-- The words that are no names. -/
def reserved : List String :=
  ["add", "all", "alter", "and", "as", "autoincrement", "between", "case", "check", "collate",
    "commit", "constraint", "create", "cross", "default", "deferrable", "delete", "distinct", "drop",
    "else", "escape", "except", "exists", "foreign", "from", "full", "group", "having", "in",
    "index", "indexed", "inner", "insert", "intersect", "into", "is", "isnull", "join", "left",
    "limit", "natural", "not", "nothing", "notnull", "null", "on", "or", "order", "outer", "primary",
    "references", "returning", "right", "select", "set", "table", "then", "to", "transaction",
    "union", "unique", "update", "using", "values", "when", "where"]

/-- The words that say how two sources are joined. -/
def joinWords : List String := ["cross", "full", "inner", "left", "natural", "outer", "right"]

/-- Whether a token can be a name wherever one may stand. -/
def isPlainName (t : Token) : Bool :=
  match t.kind with
  | .word => !reserved.contains (String.ofList (lower t.chars))
  | .name _ _ => true
  | _ => false

/-- Whether a token can be a name in an expression; some reserved words can. -/
def isInnerName (t : Token) : Bool :=
  t.isPlainName || t.isKeyword "indexed" || joinWords.any t.isKeyword

/-- Whether a token can be a name where nothing but a name can stand; there a text can, too. -/
def isAnyName (t : Token) : Bool :=
  t.isInnerName ||
    match t.kind with
    | .string _ => true
    | _ => false

/-- The token as a text. -/
def written (t : Token) : String := String.ofList t.chars

/-- The name that a token is. -/
def nameText (t : Token) : String :=
  match t.kind with
  | .name text _ | .string text => String.ofList text
  | _ => String.ofList t.chars

end Token

end RowCheck.Sql
