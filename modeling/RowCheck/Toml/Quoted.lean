import RowCheck.Toml.Scalar

/-!
# TOML strings

The four kinds of quoted strings: basic ones with escapes, literal ones without, each on one line
or, in three quotes, over several. Line ends are read as line feeds.
-/

namespace RowCheck.Toml

/-- Characters that may stand in a string or a comment: a tab and all but the controls. -/
def isPlain (c : Char) : Bool := c == '\t' || (0x20 ≤ c.toNat && c.toNat ≠ 0x7F)

/-- A line end at the front of a text. -/
def newline? : List Char → Option (List Char)
  | '\n' :: r | '\r' :: '\n' :: r => some r
  | _ => none

/-- A character from its number in `width` hexadecimal digits. -/
def hexChar (width : Nat) (cs : List Char) : Option (Char × List Char) :=
  let ds := cs.take width
  if ds.length = width ∧ ds.all (fun c => (digitOf c).isSome) then
    let n := ofBase 16 ds
    if n.isValidChar then some (Char.ofNat n, cs.drop width) else none
  else none

/-- What follows a backslash. -/
def escape? : List Char → Option (Char × List Char)
  | 'b' :: r => some ('\x08', r)
  | 't' :: r => some ('\t', r)
  | 'n' :: r => some ('\n', r)
  | 'f' :: r => some ('\x0c', r)
  | 'r' :: r => some ('\r', r)
  | '"' :: r => some ('"', r)
  | '\\' :: r => some ('\\', r)
  | 'u' :: r => hexChar 4 r
  | 'U' :: r => hexChar 8 r
  | _ => none

/-- The rest of a string on one line, whose closing quote is `quote`. -/
def restOfLine (quote : Char) : Nat → List Char → Option (List Char × List Char)
  | 0, _ | _, [] => none
  | fuel + 1, c :: r =>
    if c = quote then some ([], r)
    else if c = '\\' ∧ quote = '"' then do
      let (c, r) ← escape? r
      let (cs, r) ← restOfLine quote fuel r
      return (c :: cs, r)
    else if isPlain c then do
      let (cs, r) ← restOfLine quote fuel r
      return (c :: cs, r)
    else none

/-- The lines that a backslash at a line's end joins: blanks and line ends are left out. -/
def joinedLine (r : List Char) : Option (List Char) :=
  let r := r.dropWhile fun c => c == ' ' || c == '\t'
  (newline? r).map (skip (r.length + 1))
where
  skip : Nat → List Char → List Char
    | 0, r => r
    | fuel + 1, r =>
      match r with
      | ' ' :: r | '\t' :: r => skip fuel r
      | r =>
        match newline? r with
        | some r => skip fuel r
        | none => r

/-- The rest of a string in three quotes. Up to two further quotes may stand before the closing
ones. -/
def restOfLines (quote : Char) : Nat → List Char → Option (List Char × List Char)
  | 0, _ | _, [] => none
  | fuel + 1, c :: r =>
    if c = quote then
      let run := 1 + (r.takeWhile (· == quote)).length
      if run < 3 then do
        let (cs, r) ← restOfLines quote fuel r
        return (c :: cs, r)
      else if run < 6 then some (List.replicate (run - 3) quote, r.drop (run - 1))
      else none
    else if c = '\\' ∧ quote = '"' then
      match joinedLine r with
      | some r => restOfLines quote fuel r
      | none => do
        let (c, r) ← escape? r
        let (cs, r) ← restOfLines quote fuel r
        return (c :: cs, r)
    else
      match newline? (c :: r) with
      | some r => do
        let (cs, r) ← restOfLines quote fuel r
        return ('\n' :: cs, r)
      | none =>
        if isPlain c then do
          let (cs, r) ← restOfLines quote fuel r
          return (c :: cs, r)
        else none

/-- A string on one line, its opening quote included. -/
def lineString? : List Char → Option (String × List Char)
  | c :: r =>
    if c = '"' ∨ c = '\'' then
      (restOfLine c (r.length + 1) r).map fun (cs, r) => (String.ofList cs, r)
    else none
  | [] => none

/-- A string of any kind, its opening quotes included. A line end right after three opening quotes
is left out. -/
def string? : List Char → Option (String × List Char)
  | a :: b :: c :: r =>
    if (a = '"' ∨ a = '\'') ∧ b = a ∧ c = a then
      let r := (newline? r).getD r
      (restOfLines a (r.length + 1) r).map fun (cs, r) => (String.ofList cs, r)
    else lineString? (a :: b :: c :: r)
  | r => lineString? r

end RowCheck.Toml
