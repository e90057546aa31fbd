import RowCheck.Toml.Quoted

/-!
# Reading TOML documents

Keys, values, headers and lines, put together to the table of the whole document. Arrays and inline
tables nest at most 79 deep, and a dotted key has at most 79 parts.
-/

namespace RowCheck.Toml

def skipBlanks (cs : List Char) : List Char := cs.dropWhile fun c => c == ' ' || c == '\t'

/-- Characters of a key without quotes. -/
def isBare (c : Char) : Bool := c.isAlphanum || c == '_' || c == '-'

/-- One part of a key, with the blanks around it. -/
def keyPart? (cs : List Char) : Option (String × List Char) := do
  let cs := skipBlanks cs
  let (part, cs) ←
    match cs with
    | '"' :: _ | '\'' :: _ => lineString? cs
    | _ =>
      let bare := cs.takeWhile isBare
      if bare.isEmpty then none else some (String.ofList bare, cs.dropWhile isBare)
  return (part, skipBlanks cs)

/-- The parts of a dotted key. -/
def key? : Nat → List Char → Option (List String × List Char)
  | 0, _ => none
  | fuel + 1, cs => do
    let (part, cs) ← keyPart? cs
    match cs with
    | '.' :: cs =>
      let (parts, cs) ← key? fuel cs
      return (part :: parts, cs)
    | _ => return ([part], cs)

/-- The greatest number of parts of a dotted key. -/
def maxDepth : Nat := 79

/-- The characters of a comment after its hash. -/
def skipComment : List Char → List Char
  | '#' :: cs => cs.dropWhile isPlain
  | cs => cs

/-- Blanks, comments and line ends between the items of an array. -/
def skipLines : Nat → List Char → List Char
  | 0, cs => cs
  | fuel + 1, cs =>
    let cs := skipBlanks cs
    match cs with
    | '#' :: _ =>
      match newline? (skipComment cs) with
      | some cs => skipLines fuel cs
      | none => cs
    | _ =>
      match newline? cs with
      | some cs => skipLines fuel cs
      | none => cs

/-- Characters of scalars without quotes. -/
def isLexeme (c : Char) : Bool := isBare c || c == '+' || c == '.' || c == ':'

/-- A scalar without quotes. A date and a time may be joined by one space. -/
def bare? (cs : List Char) : Option (Toml × List Char) := do
  let word := cs.takeWhile isLexeme
  let rest := cs.dropWhile isLexeme
  match rest with
  | ' ' :: r =>
    let time := r.takeWhile isLexeme
    if date? word = some [] ∧ isDateTime (word ++ ' ' :: time) then
      some (.dateTime (String.ofList (word ++ ' ' :: time)), r.dropWhile isLexeme)
    else return (← scalar? word, rest)
  | _ => return (← scalar? word, rest)

mutual

/-- A value. -/
def value? : Nat → Nat → List Char → Option (Toml × List Char)
  | 0, _, _ => none
  | fuel + 1, depth, cs =>
    match cs with
    | '"' :: _ | '\'' :: _ => (string? cs).map fun (s, cs) => (.string s, cs)
    | '[' :: cs =>
      if depth = 0 then none
      else (items? fuel (depth - 1) cs).map fun (vs, cs) => (.array vs, cs)
    | '\x7b' :: cs =>
      if depth = 0 then none
      else
        match skipBlanks cs with
        | '\x7d' :: cs => some (.table .inline [], cs)
        | cs => (members? fuel (depth - 1) [] cs).map fun (ms, cs) => (.table .inline ms, cs)
    | cs => bare? cs

/-- The items of an array up to its closing bracket; a comma may follow the last one. -/
def items? : Nat → Nat → List Char → Option (List Toml × List Char)
  | 0, _, _ => none
  | fuel + 1, depth, cs =>
    match skipLines (cs.length + 1) cs with
    | ']' :: cs => some ([], cs)
    | cs => do
      let (v, cs) ← value? fuel depth cs
      match skipLines (cs.length + 1) cs with
      | ',' :: cs =>
        let (vs, cs) ← items? fuel depth cs
        return (v :: vs, cs)
      | ']' :: cs => return ([v], cs)
      | _ => none

/-- The members of an inline table up to its closing brace, added to those already read. -/
def members? : Nat → Nat → Members → List Char → Option (Members × List Char)
  | 0, _, _, _ => none
  | fuel + 1, depth, ms, cs => do
    let (path, cs) ← key? maxDepth cs
    let '=' :: cs := cs | none
    let (v, cs) ← value? fuel depth (skipBlanks cs)
    let ms ← addKey .inline path.dropLast (path.getLastD "") v ms
    match skipBlanks cs with
    | ',' :: cs => members? fuel depth ms cs
    | '\x7d' :: cs => return (ms, cs)
    | _ => none

end

/-- The end of a line, after blanks and a comment. -/
def lineEnd? (cs : List Char) : Option (List Char) :=
  match skipComment (skipBlanks cs) with
  | [] => some []
  | cs => newline? cs

/-- A document that is being read: its tables so far, and the table whose lines are being read,
under the header that opened it. -/
structure Draft where
  root : Members
  path : List String
  repeated : Bool
  current : Members

namespace Draft

/-- Puts the table that was being read into its place. -/
def close (d : Draft) : Option Members :=
  match d.path.getLast? with
  | none => some d.current
  | some key =>
    changeAt false (fun _ ms =>
      match d.repeated, get? key ms with
      | true, none => some (ms ++ [(key, .tables [d.current])])
      | true, some (.tables ts) => some (replace key (.tables (ts ++ [d.current])) ms)
      | false, none => some (ms ++ [(key, .table .header d.current)])
      | _, _ => none) d.path.dropLast .header d.root

/-- Opens the table of a header. A table that so far was only a parent keeps what is below it. -/
def openTable (path : List String) (root : Members) : Option Draft := do
  let key := path.getLastD ""
  let lookUp (ms : Members) : Option Members :=
    match get? key ms with
    | none => some []
    | some (.table .parent t) => some t
    | some _ => none
  let root ← changeAt false (fun _ ms => some ms) path.dropLast .header root
  let current ← lookUp (← reach path.dropLast root)
  let root ← changeAt false (fun _ ms => some (erase key ms)) path.dropLast .header root
  return ⟨root, path, false, current⟩
where
  /-- The members of the table at a path that exists. -/
  reach : List String → Members → Option Members
    | [], ms => some ms
    | key :: path, ms =>
      match get? key ms with
      | some (.table _ t) => reach path t
      | some (.tables ts) => ts.getLast?.bind (reach path)
      | _ => none

/-- Opens one more table of a header in double brackets. -/
def openRepeated (path : List String) (root : Members) : Option Draft := do
  let key := path.getLastD ""
  let root ← changeAt false (fun _ ms =>
    match get? key ms with
    | none | some (.tables _) => some ms
    | some _ => none) path.dropLast .header root
  return ⟨root, path, true, []⟩

end Draft

/-- Reads the lines of a document. -/
def lines? : Nat → Draft → List Char → Option Members
  | 0, _, _ => none
  | fuel + 1, d, cs =>
    match skipBlanks cs with
    | [] => d.close
    | '[' :: '[' :: cs => do
      let (path, cs) ← key? maxDepth cs
      let ']' :: ']' :: cs := cs | none
      let cs ← lineEnd? cs
      lines? fuel (← Draft.openRepeated path (← d.close)) cs
    | '[' :: cs => do
      let (path, cs) ← key? maxDepth cs
      let ']' :: cs := cs | none
      let cs ← lineEnd? cs
      lines? fuel (← Draft.openTable path (← d.close)) cs
    | cs =>
      match lineEnd? cs with
      | some cs => lines? fuel d cs
      | none => do
        let (path, cs) ← key? maxDepth cs
        let '=' :: cs := cs | none
        let (v, cs) ← value? (cs.length + 1) maxDepth (skipBlanks cs)
        let cs ← lineEnd? cs
        let current ← addKey .header path.dropLast (path.getLastD "") v d.current
        lines? fuel { d with current } cs

/-- The members of the table of a whole document; a byte order mark may stand before it. -/
def parse (text : String) : Option Members :=
  let cs := text.toList
  let cs := if cs.head? = some '\uFEFF' then cs.drop 1 else cs
  lines? (cs.length + 1) ⟨[], [], false, []⟩ cs

end RowCheck.Toml
