import RowCheck.Sql.Operation

/-!
# Reading statements

Statements from their tokens. Only the first statement of a text is read. A fault in the order of
the tokens is reported at the first token that cannot go on; a fault in what they say, such as too
deep an expression, gives way to one at the token behind it.
-/

namespace RowCheck.Sql

/-- What is left of a statement while it is read. -/
structure Reading where
  tokens : List Token
  /-- A fault in what has been read, to be reported when the next token is taken. -/
  fault? : Option SyntaxFault

/-- A reader that takes tokens from the front of a list. -/
abbrev Parser := StateT Reading (Except SyntaxFault)

namespace Parser

/-- The tokens that are left. -/
def rest : Parser (List Token) := do return (← get).tokens

/-- The next token, which is not taken. Characters that are no token fail here. -/
def peek : Parser Token := do
  match (← rest).head? with
  | none => throw .incomplete
  | some t => if t.kind = .unrecognized then throw (.unrecognized t) else return t

/-- Reports a fault in what has been read. -/
def settle : Parser Unit := do
  if let some fault := (← get).fault? then throw fault

/-- Notes a fault in what has been read. -/
def note (fault : SyntaxFault) : Parser Unit := modify fun r => { r with fault? := some fault }

/-- Drops some tokens that have been looked at. -/
def drop (n : Nat) : Parser Unit := do
  settle
  modify fun r => { r with tokens := r.tokens.drop n }

/-- Takes the next token. -/
def take : Parser Token := do
  let t ← peek
  drop 1
  return t

/-- Fails at the next token. -/
def fail {α : Type} : Parser α := do
  let t ← peek
  if t.kind = .finish then throw .incomplete else throw (.unexpected t)

/-- Takes a keyword if it is next. -/
def optional (keyword : String) : Parser Bool := do
  if (← peek).isKeyword keyword then
    let _ ← take
    return true
  else return false

def keyword (word : String) : Parser Unit := do
  if !(← optional word) then fail

/-- Takes a sign if it is next. -/
def optionalSign (sign : String) : Parser Bool := do
  if (← peek).isSign sign then
    let _ ← take
    return true
  else return false

def sign (s : String) : Parser Unit := do
  if !(← optionalSign s) then fail

/-- The name that a token is, with its place. -/
def nameOf (t : Token) : Name :=
  ⟨t.nameText, String.ofList t.chars,
    match t.kind with
    | .name _ doubleQuoted => doubleQuoted
    | _ => false, t.offset⟩

/-- The name of a table, a column or a schema. -/
def name : Parser Name := do
  if (← peek).isAnyName then return nameOf (← take) else fail

/-- A name of its own for an item or a source, after `AS` or by itself. -/
def alias? : Parser (Option String) := do
  if ← optional "as" then return some (← name).text
  let t ← peek
  match t.kind with
  | .string _ | .name _ _ => return some (← take).nameText
  | _ => if t.isPlainName then return some (← take).nameText else return none

/-- A table, after the name of its schema if it is given. -/
def target : Parser Target := do
  let first ← name
  if ← optionalSign "." then return ⟨some first, ← name⟩
  else return ⟨none, first⟩

/-- A table that is changed, with the name that it has in the statement if it is given one. -/
def changedTarget : Parser (Target × Option String) := do
  let t ← target
  if ← optional "as" then return (t, some (← name).text) else return (t, none)

/-- One or more of something, separated by commas. -/
def list {α : Type} (item : Parser α) : Nat → Parser (List α)
  | 0 => fail
  | fuel + 1 => do
    let a ← item
    if ← optionalSign "," then return a :: (← list item fuel)
    else return [a]

/-- One or more of something, as many as there are tokens for. -/
def commaList {α : Type} (item : Parser α) : Parser (List α) := do list item ((← rest).length + 1)

/-- A part in parentheses. -/
def parenthesized {α : Type} (p : Parser α) : Parser α := do
  sign "("
  let a ← p
  sign ")"
  return a

/-- The text from the tokens `before` to the tokens `after` that follow it, without blanks at its
ends. -/
def textBetween (before after : List Token) : String :=
  let taken := before.take (before.length - after.length)
  let chars :=
    match taken with
    | [] => []
    | t :: ts => t.chars ++ ts.flatMap fun t => t.gap ++ t.chars
  let chars := chars ++ (after.head?.elim [] Token.gap)
  String.ofList ((chars.reverse.dropWhile isSpace).reverse)

/-! ## Literals -/

/-- The value of a decimal integer, and the value behind a minus sign. -/
def decimalValues (chars : List Char) : Value × Value :=
  let n : Int := Text.ofDigits chars
  let float (negative : Bool) : Value := .real { NumberText.read chars with negative }.toBinary64
  (if fitsInt64 n then .int (.ofInt n) else float false,
    if fitsInt64 (-n) then .int (.ofInt (-n)) else float true)

/-- A whole number as a constant; one of 32 bits is known by its value. -/
def wholeLiteral (v minus : Value) (chars : List Char) : Literal :=
  let isSmall :=
    match v with
    | .int i => 0 ≤ i.toInt && i.toInt < 0x80000000
    | _ => false
  ⟨v, some minus, if isSmall then .small else .text (String.ofList chars)⟩

/-- The constant that the digits of a whole number are. -/
def integerLiteral {Q : Type} (chars : List Char) (offset : Nat) : Expr Q :=
  let decimal : Expr Q :=
    let (v, minus) := decimalValues chars
    .literal (wholeLiteral v minus chars) offset
  match chars with
  | '0' :: x :: digits =>
    if x = 'x' ∨ x = 'X' then
      if 16 < (digits.dropWhile (· == '0')).length then .oversized (String.ofList chars) offset
      else
        let i := Int64.ofNat (digits.foldl (fun n c => 16 * n + Token.hexBytes.value c) 0)
        .literal (wholeLiteral (.int i) (.ofInt (-i.toInt)) chars) offset
    else decimal
  | _ => decimal

/-- The constant that a number with a fraction or an exponent is. -/
def floatLiteral {Q : Type} (chars : List Char) (offset : Nat) : Expr Q :=
  let x := (NumberText.read chars).toBinary64
  .literal ⟨.real x, some (.real x.neg), .text (String.ofList chars)⟩ offset

/-- What the last underscore of a number that does not stand between digits is blamed on: the
characters before it that are no underscores, and what follows as many characters of the number. -/
def misplacedSeparator? (isDigit : Char → Bool) (chars : List Char) : Option (List Char) :=
  let isMisplaced (i : Nat) : Bool :=
    chars[i]? = some '_' && !(chars[i - 1]?.any isDigit && chars[i + 1]?.any isDigit)
  ((List.range chars.length).filter isMisplaced).getLast?.map fun i =>
    let kept := (chars.take i).filter (· ≠ '_')
    kept ++ chars.drop kept.length

/-- A number with underscores between its digits as a constant. -/
def separatedLiteral {Q : Type} (written : List Char) (offset : Nat) : Parser (Expr Q) := do
  let isHex := Token.lower (written.take 2) = ['0', 'x']
  let isDigit := if isHex then Token.scanNumber.isHex else Char.isDigit
  if let some text := misplacedSeparator? isDigit written then
    note (.separator (String.ofList text))
  let chars := written.filter (· ≠ '_')
  if !isHex && chars.any fun c => c == '.' || c == 'e' || c == 'E' then
    return floatLiteral chars offset
  else return integerLiteral chars offset

/-- The literal that comes next, which is taken. -/
def literal? {Q : Type} : Parser (Option (Expr Q)) := do
  let t ← peek
  match t.kind with
  | .integer =>
    let _ ← take
    return some (integerLiteral t.chars t.offset)
  | .float =>
    let _ ← take
    return some (floatLiteral t.chars t.offset)
  | .separated =>
    let _ ← take
    return some (← separatedLiteral t.chars t.offset)
  | .string text =>
    let _ ← take
    return some (.literal (.ofText text) t.offset)
  | .blob bytes =>
    let _ ← take
    return some (.literal ⟨.blob bytes, none, .text t.written⟩ t.offset)
  | .word =>
    if t.isKeyword "null" then
      let _ ← take
      return some (.literal .null t.offset)
    else return none
  | _ => return none

/-! ## Expressions -/

section Expressions

variable {Q : Type} (depthOf : Q → Nat)

/-- An expression that has just been put together, which must not be too deep. -/
def made (e : Expr Q) : Parser (Expr Q) := do
  if maxDepth < e.height depthOf then note .tooDeep
  return e

/-- The operators of a level, the loosest level first. -/
def operators : Nat → List (String × Operator)
  | 3 => [("=", .eq), ("==", .eq), ("<>", .ne), ("!=", .ne)]
  | 4 => [("<", .lt), ("<=", .le), (">", .gt), (">=", .ge)]
  | 5 => [("+", .add), ("-", .sub)]
  | 6 => [("*", .mul), ("/", .div), ("%", .rem)]
  | 7 => [("||", .concat)]
  | _ => []

/-- The operator of a level that comes next, which is taken. -/
def operator? (level : Nat) : Parser (Option Operator) := do
  let t ← peek
  if level = 0 then return if ← optional "or" then some .or else none
  if level = 1 then return if ← optional "and" then some .and else none
  if level = 3 && t.isKeyword "is" then
    let _ ← take
    return some (if ← optional "not" then .isNot else .is)
  match (operators level).find? fun p => t.isSign p.1 with
  | some (_, op) =>
    let _ ← take
    return some op
  | none => return none

/-- A test for `NULL` behind an expression, which is taken. -/
def nullTest? : Parser (Option Operator) := do
  if ← optional "isnull" then return some .is
  if ← optional "notnull" then return some .isNot
  if ← optional "not" then
    keyword "null"
    return some .isNot
  else return none

mutual

/-- An expression whose operators are at least as tight as a level. -/
def chain (atom : Parser (Expr Q)) : Nat → Nat → Parser (Expr Q)
  | 0, _ => fail
  | fuel + 1, level => do
    if level = 2 then
      if ← optional "not" then made depthOf (.not (← chain atom fuel 2)) else chain atom fuel 3
    else if level < 8 then
      let l ← chain atom fuel (level + 1)
      chainFrom atom fuel level l
    else if ← optionalSign "-" then made depthOf (← chain atom fuel 8).negated
    else if ← optionalSign "+" then made depthOf (← chain atom fuel 8).unchanged
    else if ← optional "not" then made depthOf (.not (← chain atom fuel 3))
    else atom

/-- Goes on with an expression by the operators of a level, from left to right. A test for `NULL`
makes an expression that tighter operators can go on with. -/
def chainFrom (atom : Parser (Expr Q)) : Nat → Nat → Expr Q → Parser (Expr Q)
  | 0, _, l => return l
  | fuel + 1, level, l => do
    match ← operator? level with
    | some op =>
      let r ← chain atom fuel (level + 1)
      chainFrom atom fuel level (← made depthOf (.operation op l r))
    | none =>
      match ← (if level = 3 then nullTest? else pure none) with
      | some op =>
        let l ← made depthOf (.binary op l (.literal .null 0))
        let l ← chainFrom atom fuel 7 l
        let l ← chainFrom atom fuel 6 l
        let l ← chainFrom atom fuel 5 l
        let l ← chainFrom atom fuel 4 l
        chainFrom atom fuel 3 l
      | none => return l

end

/-- An expression of anything that `atom` reads. -/
def expressionOf (atom : Parser (Expr Q)) : Parser (Expr Q) := do
  chain depthOf atom (12 * (← rest).length + 12) 0

/-- The text of some tokens, with the blanks between them. -/
def writtenText : List Token → String
  | [] => ""
  | t :: ts => String.ofList (t.chars ++ ts.flatMap fun t => t.gap ++ t.chars)

/-- The words of a type and its sizes, as they are written. -/
def typeText? : Parser (Option String) := do
  let before ← rest
  let rec words : Nat → Parser Unit
    | 0 => return
    | fuel + 1 => do
      let t ← peek
      match t.kind with
      | .string _ =>
        let _ ← take
        words fuel
      | _ =>
        if t.isPlainName then
          let _ ← take
          words fuel
  words before.length
  if (← rest).length = before.length then return none
  if ← optionalSign "(" then
    let size : Parser Unit := do
      if !(← optionalSign "-") then
        let _ ← optionalSign "+"
      let t ← peek
      if t.kind = .integer ∨ t.kind = .float then
        let _ ← take
      else fail
    size
    if ← optionalSign "," then size
    sign ")"
  return some (writtenText (before.take (before.length - (← rest).length)))

/-- The number of a parameter, if it is written. -/
def parameterNumber? (t : Token) : Option Nat :=
  match t.chars with
  | '?' :: d :: ds => some (Text.ofDigits (d :: ds))
  | _ => none

/-- The arguments of a call after its opening parenthesis. -/
def arguments (fn : Name) (expr : Parser (Expr Q)) : Parser (Expr Q) := do
  if ← optionalSign "*" then
    sign ")"
    return .call fn true false []
  if ← optionalSign ")" then return .call fn false false []
  let distinct ← optional "distinct"
  if !distinct then
    let _ ← optional "all"
  let args ← commaList expr
  sign ")"
  if maxArguments < args.length then note (.tooManyArguments fn)
  made depthOf (.call fn false distinct args)

/-- The further names after a name with a point behind it. -/
def pathFrom (first : Name) : Parser (List Name) := do
  if ← optionalSign "." then
    let second ← name
    if ← optionalSign "." then return [first, second, ← name]
    else return [first, second]
  else return [first]

/-- The smallest expressions: literals, parameters, columns, calls, conversions, and parts in
parentheses. A text can be the name of a table before a point. -/
def atom (expr : Parser (Expr Q)) (query : Parser Q) : Parser (Expr Q) := do
  let t ← peek
  let next? := (← rest)[1]?
  if next?.any (·.isSign ".") && t.isAnyName && !t.isKeyword "cast" then
    made depthOf (.column (← pathFrom (nameOf (← take))))
  else if let some e ← literal? then return e
  else if t.kind = .parameter then
    let _ ← take
    return .parameter (parameterNumber? t) t.offset
  else if ← optionalSign "(" then
    let u ← peek
    if u.isKeyword "select" || u.isKeyword "values" then
      let q ← query
      sign ")"
      made depthOf (.query q t.offset)
    else
      let e ← expr
      if ← optionalSign "," then
        let items := e :: (← commaList expr)
        sign ")"
        made depthOf (.row items)
      else
        sign ")"
        return e
  else if t.isKeyword "cast" then
    let _ ← take
    parenthesized do
      let e ← expr
      keyword "as"
      return .cast e ((← typeText?).getD "")
  else if t.isInnerName then
    let first := nameOf (← take)
    if ← optionalSign "(" then arguments depthOf first expr else return .column [first]
  else fail

end Expressions

/-! ## Queries -/

/-- An item of a result. -/
def item {Q : Type} (expr : Parser (Expr Q)) : Parser (Item Q) := do
  if ← optionalSign "*" then return .all
  match ← rest with
  | t :: dot :: star :: _ =>
    if t.isAnyName && dot.isSign "." && star.isSign "*" then
      drop 3
      return .allOf (nameOf t)
  | _ => pure ()
  let before ← rest
  let e ← expr
  let _ ← peek
  let text := textBetween before (← rest)
  return .expr e (← alias?) text

/-- The sign or the words that join one more source; whether it has to stay behind the others. -/
def joins? : Parser (Option Bool) := do
  if ← optionalSign "," then return some false
  if ← optional "join" then return some false
  let t ← peek
  if Token.joinWords.any t.isKeyword then
    let _ ← take
    let more : Parser Unit := do
      if (← peek).isAnyName then
        let _ ← take
    more
    more
    if !(t.isKeyword "inner" || t.isKeyword "cross") then
      if (← peek).isKeyword "join" then fail
    keyword "join"
    return some (t.isKeyword "cross")
  return none

/-- A table as a source; what looks like a call is read as one. -/
def tableSource {Q : Type} (expr : Parser (Expr Q)) : Parser (SourceTerm Q) := do
  let t ← target
  if ← optionalSign "(" then
    if !(← optionalSign ")") then
      let _ ← commaList expr
      sign ")"
    return .call t (← alias?)
  else return .table t (← alias?)

/-- A source with another name of its own, or without one. -/
def renamed {Q : Type} (alias? : Option String) : SourceTerm Q → SourceTerm Q
  | .table t _ => .table t alias?
  | .call t _ => .call t alias?
  | .query q _ => .query q alias?

/-- A query of all columns of some sources. -/
def allOf {Q : Type} (sources : List (Joined Q)) : Compound Q :=
  ⟨.select false [.all] sources none [] none, [], [], none, none⟩

section Sources

variable {Q : Type} (ofCompound : Compound Q → Q) (expr : Parser (Expr Q)) (query : Parser Q)

/-- Sources in parentheses. At the front they are sources like others; elsewhere, or with a name or
a condition, they are one source. -/
def grouped (isFirst crossed : Bool) (inner : List (Joined Q)) (alias? : Option String)
    (on? : Option (Expr Q)) : List (Joined Q) :=
  if isFirst && alias?.isNone && on?.isNone then inner
  else
    match inner with
    | [j] => [⟨renamed alias? j.source, crossed, on?⟩]
    | _ => [⟨.query (ofCompound (allOf inner)) alias?, crossed, on?⟩]

/-- The sources of a query, each with its condition. -/
def sources : Nat → Bool → Bool → Parser (List (Joined Q))
  | 0, _, _ => fail
  | fuel + 1, isFirst, crossed => do
    let on? : Parser (Option (Expr Q)) := do
      if ← optional "on" then
        let e ← expr
        if isFirst then note .joinRequired
        return some e
      else return none
    let found ←
      if ← optionalSign "(" then
        let t ← peek
        if t.isKeyword "select" || t.isKeyword "values" then
          let q ← query
          sign ")"
          let name? ← alias?
          pure [⟨.query q name?, crossed, ← on?⟩]
        else
          let inner ← sources fuel true false
          sign ")"
          let name? ← alias?
          pure (grouped ofCompound isFirst crossed inner name? (← on?))
      else
        let s ← tableSource expr
        pure [⟨s, crossed, ← on?⟩]
    match ← joins? with
    | some next => return found ++ (← sources fuel false next)
    | none => return found

end Sources

/-- A clause that begins with a keyword. -/
def clause? {α : Type} (word : String) (p : Parser α) : Parser (Option α) := do
  if ← optional word then return some (← p) else return none

/-- Whether a row of constants can begin a list of rows: it has no conversion of its own type. -/
def beginsRows {Q : Type} (row : List (Expr Q)) : Bool :=
  Expr.areConstant row && row.all fun
    | .cast .. => false
    | _ => true

/-- Adds a row to lists of rows, the last of which is the first one here. Constants go into the list
that they can go on with, anything else begins one of its own. -/
def addRow {Q : Type} (row : List (Expr Q)) :
    List (List (List (Expr Q))) → Parser (List (List (List (Expr Q))))
  | [] => return [[row]]
  | [] :: groups => return [row] :: groups
  | (first :: rows) :: groups => do
    if Expr.areConstant row && (!rows.isEmpty || beginsRows first) then
      if row.length ≠ first.length then note .unevenRows
      return (first :: (rows ++ [row])) :: groups
    else return [row] :: (first :: rows) :: groups

/-- The rows of a member of constant rows, in lists. -/
def valueRows {Q : Type} (expr : Parser (Expr Q)) :
    Nat → List (List (List (Expr Q))) → Parser (List (List (List (Expr Q))))
  | 0, _ => fail
  | fuel + 1, groups => do
    let groups ← addRow (← parenthesized (commaList expr)) groups
    if ← optionalSign "," then valueRows expr fuel groups else return groups.reverse

/-- One member of a compound query that selects. -/
def selection {Q : Type} (ofCompound : Compound Q → Q) (expr : Parser (Expr Q)) (query : Parser Q) :
    Parser (Member Q) := do
  keyword "select"
  let distinct ← optional "distinct"
  if !distinct then
    let _ ← optional "all"
  let items ← commaList (item expr)
  let from? ← clause? "from" do
    sources ofCompound expr query ((← rest).length + 1) true false
  let filter? ← clause? "where" expr
  let groupBy ← clause? "group" do
    keyword "by"
    commaList expr
  let having? ← clause? "having" expr
  return .select distinct items (from?.getD []) filter? (groupBy.getD []) having?

/-- A term of an order. -/
def orderTerm {Q : Type} (expr : Parser (Expr Q)) : Parser (OrderTerm Q) := do
  let e ← expr
  if ← optional "desc" then return ⟨e, true⟩
  let _ ← optional "asc"
  return ⟨e, false⟩

/-- An order and a window. -/
structure Tail (Q : Type) where
  orderBy : List (OrderTerm Q)
  limit? : Option (Expr Q)
  offset? : Option (Expr Q)

/-- The clause of a tail that is named first, if it has one. -/
def Tail.clause? {Q : Type} (t : Tail Q) : Option String :=
  if !t.orderBy.isEmpty then some "ORDER BY" else if t.limit?.isSome then some "LIMIT" else none

/-- What may follow a member that selects: an order and a window. -/
def tail {Q : Type} (expr : Parser (Expr Q)) : Parser (Tail Q) := do
  let orderBy ← clause? "order" do
    keyword "by"
    commaList (orderTerm expr)
  let window? ← clause? "limit" do
    let a ← expr
    if ← optional "offset" then return (a, some (← expr))
    else if ← optionalSign "," then return (← expr, some a)
    else return (a, none)
  return ⟨orderBy.getD [], window?.map (·.1), window?.bind (·.2)⟩

/-- A member, which may be several lists of rows, and what follows it. -/
def memberTail {Q : Type} (ofCompound : Compound Q → Q) (expr : Parser (Expr Q)) (query : Parser Q) :
    Parser (List (Member Q) × Tail Q) := do
  if ← optional "values" then
    let groups ← valueRows expr ((← rest).length + 1) []
    return (groups.map .values, ⟨[], none, none⟩)
  else
    let m ← selection ofCompound expr query
    return ([m], ← tail expr)

/-- The operator between two members, if it comes next. -/
def setOperator? : Parser (Option SetOperator) := do
  if ← optional "union" then return some (if ← optional "all" then .unionAll else .union)
  if ← optional "intersect" then return some .intersect
  if ← optional "except" then return some .except
  return none

/-- Members side by side. -/
def gathered {Q : Type} (members : List (Member Q)) (others : List (SetOperator × Member Q))
    (tail : Tail Q) : Compound Q :=
  match members with
  | [] => ⟨.values [], others, tail.orderBy, tail.limit?, tail.offset?⟩
  | m :: ms =>
    ⟨m, ms.map (.unionAll, ·) ++ others, tail.orderBy, tail.limit?, tail.offset?⟩

/-- The members after the first one. One that is several lists of rows becomes a query of its own.
-/
def others {Q : Type} (ofCompound : Compound Q → Q) (member : Parser (List (Member Q) × Tail Q)) :
    Nat → Parser (List (SetOperator × Member Q × Tail Q))
  | 0 => return []
  | fuel + 1 => do
    match ← setOperator? with
    | none => return []
    | some op =>
      let (members, t) ← member
      let m : Member Q :=
        match members with
        | [m] => m
        | ms =>
          let rows := ofCompound (gathered ms [] t)
          .select false [.all] [⟨.query rows none, false, none⟩] none [] none
      return (op, m, t) :: (← others ofCompound member fuel)

/-- A query with all its members. Only the last one may be followed by an order and a window, which
are those of the whole query. -/
def compound {Q : Type} (ofCompound : Compound Q → Q) (expr : Parser (Expr Q)) (query : Parser Q) :
    Parser (Compound Q) := do
  let m := memberTail ofCompound expr query
  let (first, firstTail) ← m
  let others ← others ofCompound m (← rest).length
  let tails := firstTail :: others.map (·.2.2)
  let misplaced := (tails.zip others).reverse.findSome? fun (t, op, _) => t.clause?.map (·, op)
  if let some (clause, op) := misplaced then note (.misplaced clause op)
  else if maxMembers < tails.length then note .tooManyMembers
  let last := (tails.getLast?).getD firstTail
  return gathered first (others.map fun (op, m, _) => (op, m)) last

/-- Readers of expressions and queries that nest at most so deep. -/
def nested : Nat → Parser (Expr Query) × Parser Query
  | 0 => (fail, fail)
  | depth + 1 =>
    let inner : Parser (Expr Query) := fun r => (nested depth).1 r
    let query : Parser Query := fun r => (nested depth).2 r
    let expr := expressionOf Query.height (atom Query.height inner query)
    (expr, do return .ofCompound (← compound .ofCompound expr query))

/-- An expression. -/
def expression : Parser (Expr Query) := do (nested ((← rest).length + 1)).1

/-- A query. -/
def query : Parser Query := do (nested ((← rest).length + 1)).2

/-! ## Statements -/

/-- A constant that a column has unless a row says otherwise; a name stands for a text. -/
def defaultValue : Parser Value := do
  let minus ← optionalSign "-"
  let plus ← if minus then pure false else optionalSign "+"
  match ← literal? (Q := Query) with
  | some (.literal l _) => return if minus then l.minus?.getD l.value.negate else l.value
  | some _ => fail
  | none =>
    let t ← peek
    if !minus && !plus && (t.isPlainName || t.isKeyword "indexed") then
      let _ ← take
      if t.isKeyword "true" then return .ofBool true
      else if t.isKeyword "false" then return .ofBool false
      else return .ofString t.nameText
    else fail

/-- What stands for a column in the key of a constraint: a name, or a text that is one. -/
def keyPart : Expr Query → KeyPart
  | .column [n] => .column n
  | .column (n :: _) => .path n
  | .literal l offset =>
    match l.value, l.mark with
    | .text _, .text written => .column ⟨written, "", false, offset⟩
    | _, _ => .other
  | _ => .other

/-- Whether an order is downwards. -/
def isDownwards : Parser Bool := do
  let descending ← optional "desc"
  if !descending then
    let _ ← optional "asc"
  return descending

/-- The columns of the key of a constraint. -/
def keyColumns : Parser (List KeyColumn) :=
  commaList do
    let e ← expression
    return ⟨keyPart e, ← isDownwards⟩

/-- Where the definition of a table stands. -/
inductive Stage where
  /-- At a column. -/
  | column
  /-- Behind a column or one of its constraints. -/
  | constraint
  /-- At a constraint of the table. -/
  | tableConstraint
  /-- Behind a constraint of the table. -/
  | more
  | closed

/-- The words with which constraints of columns begin. -/
def columnWords : List String :=
  ["constraint", "primary", "not", "null", "unique", "default", "check", "references", "collate",
    "generated", "as", "deferrable"]

/-- The words with which constraints of tables begin. -/
def tableWords : List String := ["constraint", "primary", "unique", "check", "foreign"]

/-- A clause, behind which has to stand a sign that goes on with the definition or one of several
words. -/
def followed (words : List String) (clause : TableClause) : Parser (List TableClause) := do
  let t ← peek
  if t.isSign "," || t.isSign ")" || words.any t.isKeyword then return [clause] else fail

/-- A column with its type. -/
def columnClause : Parser (List TableClause) := do
  let n ← name
  let type ← typeText?
  followed columnWords (.column n.text type)

/-- A constraint of a column, or nothing if it says nothing. -/
def constraintClause : Parser (List TableClause) := do
  let followed := followed columnWords
  if ← optional "constraint" then
    let _ ← name
    return []
  else if ← optional "primary" then
    keyword "key"
    let descending ← isDownwards
    followed (.primaryKey none descending (← optional "autoincrement"))
  else if ← optional "not" then
    keyword "null"
    followed .notNull
  else if ← optional "null" then return []
  else if ← optional "unique" then followed (.unique none)
  else if ← optional "default" then followed (.default (← defaultValue))
  else fail

/-- A constraint of a table, or nothing if it says nothing. -/
def tableConstraintClause : Parser (List TableClause) := do
  let followed := followed tableWords
  if ← optional "constraint" then
    let _ ← name
    return []
  else if ← optional "primary" then
    keyword "key"
    sign "("
    let key ← keyColumns
    let autoincrement ← optional "autoincrement"
    sign ")"
    followed (.primaryKey (some key) false autoincrement)
  else if ← optional "unique" then followed (.unique (some (← parenthesized keyColumns)))
  else fail

/-- The next part of the definition of a table, and where it leads. -/
def tablePart : Stage → Parser (List TableClause × Stage)
  | .column => do return (← columnClause, .constraint)
  | .constraint => do
    if ← optionalSign "," then
      let t ← peek
      return ([], if tableWords.any t.isKeyword then .tableConstraint else .column)
    else if ← optionalSign ")" then return ([], .closed)
    else return (← constraintClause, .constraint)
  | .tableConstraint => do return (← tableConstraintClause, .more)
  | .more => do
    if ← optionalSign "," then return ([], .tableConstraint)
    else if ← optionalSign ")" then return ([], .closed)
    else return (← tableConstraintClause, .more)
  | .closed => return ([], .closed)

/-- The definition of a table from a stage to its closing parenthesis. A fault ends it; the clauses
that were read before are kept, unless the fault is right behind them. -/
def tableClauses : Nat → Stage → Reading → List TableClause × Except SyntaxFault Reading
  | 0, _, _ => ([], .error .incomplete)
  | _, .closed, r => ([], .ok r)
  | fuel + 1, stage, r =>
    match (tablePart stage).run r with
    | .error e => ([], .error e)
    | .ok ((clauses, next), r) =>
      let (more, r) := tableClauses fuel next r
      (clauses ++ more, r)

/-- The end of a statement. -/
def finish : Parser Unit := do
  let t ← peek
  if t.kind = .finish then settle else sign ";"

/-- What follows the columns of a new table: options, none of which is known. -/
def tableOptions : Parser Unit := do
  let t ← peek
  let isOption := t.isAnyName || t.isKeyword "without"
  if isOption || t.isSign "," then
    if !isOption then
      let _ ← take
    let _ ← optional "without"
    let word ← peek
    let _ ← name
    let next ← peek
    if next.isSign "," || next.isSign ";" || next.kind = .finish then throw (.unknownOption word)
  finish

/-- The definition of a table after its name. -/
def createTable (temporary ifNotExists : Bool) (target : Target) : Parser Statement := do
  let build : List TableClause → Option SyntaxFault → Statement :=
    .createTable temporary ifNotExists target
  if ← optional "as" then
    let rows : Parser Query := do
      let q ← query
      finish
      return q
    match rows.run (← get) with
    | .error e => return build [] (some e)
    | .ok (q, _) => return .createTableAs temporary ifNotExists target q
  sign "("
  let r ← get
  match tableClauses (2 * r.tokens.length + 2) .column r with
  | (clauses, .error e) => return build clauses (some e)
  | (clauses, .ok r) =>
    match tableOptions.run r with
    | .error e => return build clauses (some e)
    | .ok _ => return build clauses none

/-- The name that an attached database is given. -/
def attachedName : Parser String := do
  let fileName : Parser Unit := do
    let _ ← name
  fileName
  keyword "as"
  return (← name).text

/-- The kinds of transactions, which make no difference here. -/
def transaction : Parser Unit := do
  if !(← optional "deferred") then
    if !(← optional "immediate") then
      let _ ← optional "exclusive"
  if ← optional "transaction" then
    let t ← peek
    if t.isPlainName then
      let _ ← take

/-- A statement after its first keyword. -/
def statementBody (word : String) : Parser (Option Statement) := do
  match word with
  | "insert" =>
    let _ ← take
    keyword "into"
    let (t, alias?) ← changedTarget
    let columns? ←
      if (← peek).isSign "(" then
        pure (some ((← parenthesized (commaList name)).map (·.text)))
      else pure none
    if ← optional "default" then
      keyword "values"
      return some (.insert t alias? columns? .defaults)
    else return some (.insert t alias? columns? (.rows (← query)))
  | "update" =>
    let _ ← take
    let (t, alias?) ← changedTarget
    keyword "set"
    let expr := expression
    let changes ← commaList do
      let c ← name
      sign "="
      return (c, ← expr)
    return some (.update t alias? changes (← clause? "where" expr))
  | "delete" =>
    let _ ← take
    keyword "from"
    let (t, alias?) ← changedTarget
    return some (.delete t alias? (← clause? "where" expression))
  | "drop" =>
    let _ ← take
    keyword "table"
    let ifExists ← optional "if"
    if ifExists then keyword "exists"
    return some (.dropTable ifExists (← target))
  | "attach" =>
    let _ ← take
    let _ ← optional "database"
    return some (.attach (← attachedName))
  | "begin" =>
    let _ ← take
    transaction
    return some .begin
  | "commit" | "end" =>
    let _ ← take
    transaction
    return some .commit
  | "rollback" =>
    let _ ← take
    transaction
    return some .rollback
  | "select" | "values" => return some (.query (← query))
  | _ => return none

/-- One statement and its end. -/
def statement : Parser Statement := do
  let t ← peek
  if t.kind = .finish then return .nothing
  if t.isKeyword "create" then
    let _ ← take
    let temporary := (← optional "temp") || (← optional "temporary")
    keyword "table"
    let ifNotExists ← optional "if"
    if ifNotExists then
      keyword "not"
      keyword "exists"
    createTable temporary ifNotExists (← target)
  else
    match ← statementBody (if t.kind = .word then String.ofList (Token.lower t.chars) else "") with
    | some s =>
      finish
      return s
    | none =>
      if t.isKeyword "explain" then
        let _ ← take
      fail

end Parser

/-- The tokens of the first statement of a text. -/
def firstStatement (ts : List Token) : List Token := ts.dropWhile (·.isSign ";")

/-- The first statement of a text. -/
def parse (sql : String) : Except SyntaxFault Statement :=
  (Parser.statement.run ⟨firstStatement (Token.ofText sql), none⟩).map (·.1)

/-- How many parameters the first statement of a text has. -/
def parameterCount (sql : String) : Nat :=
  let ts := (firstStatement (Token.ofText sql)).takeWhile fun t => !t.isSign ";"
  (ts.foldl (fun (n, seen) t =>
    if t.kind ≠ .parameter then (n, seen)
    else
      match t.chars with
      | ['?'] => (n + 1, seen)
      | '?' :: ds => (max n (Text.ofDigits ds), seen)
      | cs => if seen.contains cs then (n, seen) else (n + 1, cs :: seen))
    ((0, []) : Nat × List (List Char))).1

end RowCheck.Sql
