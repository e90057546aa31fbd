import RowCheck.Sql.Block

/-!
# Names in queries

What the names in an expression stand for: the columns of the sources of a query, the items of its
result that have a name of their own, or the same of the queries around it. Resolving an expression
gives a formula.
-/

namespace RowCheck.Sql

/-- A column that expressions can name. -/
structure ScopeColumn where
  ref : ColumnRef
  label : String
  declared? : Option String

/-- A source whose columns expressions can name. -/
structure ScopeSource where
  number : Nat
  name : String
  /-- The schema of a table. -/
  schema? : Option String
  columns : List ScopeColumn
  /-- The row number of a table. -/
  rowNumber? : Option ScopeColumn

/-- An item of a result with a name of its own. -/
structure Alias where
  name : String
  formula : Formula Bound
  isAggregate : Bool
  /-- How many columns it has. -/
  width : Nat

/-- What the names in the clauses of one block can stand for. -/
structure Context where
  block : Nat
  sources : List ScopeSource
  aliases : List Alias
  /-- Whether there can be aggregates. -/
  aggregates : Bool
  /-- Whether the clause is the filter of the block. -/
  isFilter : Bool

/-- Where an expression stands. `sql` is the text of the statement, for the errors that point into
it. -/
structure Scope where
  sql : String
  database : Database
  /-- The contexts, the innermost first. -/
  contexts : List Context
  /-- How deep the expressions are in which the expression stands. -/
  depth : Nat
  /-- Whether an error gives its place in the statement. -/
  points : Bool

/-- What is known while names are resolved. -/
structure Resolution where
  /-- The next number for a block, a source or an aggregate. -/
  next : Nat
  /-- The columns that have been named, with their sources. -/
  uses : List (Nat × Nat)
  /-- The outermost context in which a name has been found, counted from the outside. -/
  reach : Nat
  /-- The blocks that own an aggregate. -/
  owners : List Nat
  /-- The error of a call or of a test for `NULL`. It is the one that counts unless what is looked
  at next is such a part, or a name, with an error of its own. -/
  fault? : Option Error

/-- Resolving takes numbers and notes what is named. -/
abbrev Resolve := StateT Resolution (Except Error)

namespace Resolve

/-- Nothing is known at first. -/
def initial : Resolution := ⟨0, [], maxNesting, [], none⟩

/-- A number that has not been taken. -/
def fresh : Resolve Nat := do
  let r ← get
  set { r with next := r.next + 1 }
  return r.next

/-- Fails if there is an error that has not been reported. -/
def settle : Resolve Unit := do
  match (← get).fault? with
  | some e => throw e
  | none => return ()

/-- Keeps an error in mind. -/
def blame (e : Error) : Resolve Unit := modify fun r => { r with fault? := some e }

/-- Keeps the error of a part in mind; `substitute` stands for the part then. -/
def attempt {α : Type} (substitute : α) (part : Resolve α) : Resolve α :=
  tryCatch part fun e => do
    blame e
    return substitute

/-- Resolves a part, and tells in which context the outermost of its names was found. -/
def reaching {α : Type} (part : Resolve α) : Resolve (α × Nat) := do
  let before := (← get).reach
  modify fun r => { r with reach := maxNesting }
  let a ← part
  let r ← get
  set { r with reach := min before r.reach }
  return (a, r.reach)

/-- Resolves a part that cannot name anything of the contexts around the innermost one. -/
def apart {α : Type} (part : Resolve α) : Resolve α := do
  let before := (← get).reach
  let a ← part
  modify fun r => { r with reach := before }
  return a

/-- Resolves a part, and tells which blocks own an aggregate in it. -/
def owning {α : Type} (part : Resolve α) : Resolve (α × List Nat) := do
  let before := (← get).owners
  modify fun r => { r with owners := [] }
  let a ← part
  let r ← get
  set { r with owners := before ++ r.owners }
  return (a, r.owners)

end Resolve

/-- Whether a name is one of those of row numbers. -/
def isRowNumber (name : String) : Bool :=
  ["rowid", "_rowid_", "oid"].any (sameName name)

/-- The greatest number of a parameter. -/
def maxParameter : Nat := 32766

/-- What a name stands for in a context. -/
inductive Meaning where
  | column (c : ScopeColumn)
  | item (a : Alias)
  | ambiguous

namespace Context

/-- The sources that the parts of a path before its last one name. -/
def named (c : Context) : List Name → List ScopeSource
  | [table, _] => c.sources.filter fun s => sameName s.name table.text
  | [schema, table, _] =>
    c.sources.filter fun s => s.schema?.any (sameName · schema.text) && sameName s.name table.text
  | _ => c.sources

/-- What a path stands for in a context: a column, the number of a row if just one source has one,
or an item. -/
def meaning? (c : Context) (path : List Name) : Option Meaning :=
  let name := (path.getLast?).elim "" Name.text
  let sources := c.named path
  let one : List ScopeColumn → Option Meaning
    | [] => none
    | [column] => some (.column column)
    | _ => some .ambiguous
  let column? := one (sources.filterMap fun s => s.columns.find? (sameName ·.label name))
  let number? :=
    if isRowNumber name then one (sources.filterMap ScopeSource.rowNumber?) else none
  let item? :=
    if path.length = 1 then (c.aliases.find? (sameName ·.name name)).map .item else none
  column? <|> number? <|> item?

end Context

namespace Scope

/-- An error at a place of the statement. No expression stands at its start: zero is no place. -/
def errorAt (s : Scope) (offset : Nat) (message : String) : Error :=
  if offset = 0 || !s.points then .failed .error message else .atOffset message s.sql offset

/-- Fails at a place of the statement. -/
def failAt {α : Type} (s : Scope) (offset : Nat) (message : String) : Resolve α :=
  throw (s.errorAt offset message)

/-- The innermost context in which a path stands for something, with its place from the outside. -/
def find? (path : List Name) : List Context → Option (Nat × Context × Meaning)
  | [] => none
  | c :: outer =>
    match c.meaning? path with
    | some m => some (outer.length, c, m)
    | none => find? path outer

/-- Notes that a column has been named. -/
def noteColumn (c : ColumnRef) : Resolve Unit :=
  match c.index? with
  | some i =>
    modify fun r =>
      if r.uses.contains (c.source, i) then r else { r with uses := (c.source, i) :: r.uses }
  | none => return ()

/-- What a path stands for: a column, an item of the result, a truth value, or, in double quotes, a
text. -/
def lookUp (s : Scope) (path : List Name) : Resolve (Formula Bound) := do
  let shown := ".".intercalate (path.map Name.text)
  let offset := path.head?.elim 0 Name.offset
  let found (level : Nat) : Resolve Unit := modify fun r => { r with reach := min r.reach level }
  match find? path s.contexts with
  | some (level, _, .column c) =>
    noteColumn c.ref
    found level
    return .column c.ref
  | some (level, c, .item a) =>
    if a.isAggregate && !c.aggregates then
      throw (.failed .error s!"misuse of aliased aggregate {a.name}")
    else if a.width ≠ 1 then throw (.failed .error "row value misused")
    found level
    return a.formula
  | some (_, _, .ambiguous) => s.failAt offset s!"ambiguous column name: {shown}"
  | none =>
    match path with
    | [n] =>
      if n.doubleQuoted then return .literal (.ofText n.text.toList)
      else if n.isTruthWord then return .literal (.truth (sameName n.text "true") n.text)
      else s.failAt offset s!"no such column: {shown}"
    | _ => s.failAt offset s!"no such column: {shown}"

/-- What a call calls. -/
inductive Callee where
  | aggregate (fn : AggregateFunction)
  | scalar (fn : ScalarFunction)
  deriving DecidableEq

/-- What a call with a number of arguments calls, if that may be called here. -/
def callee (s : Scope) (fn : Name) (count : Nat) : Resolve Callee :=
  let aggregate (a : AggregateFunction) : Resolve Callee :=
    if s.contexts.head?.any Context.aggregates then return .aggregate a
    else s.failAt fn.offset s!"misuse of aggregate function {fn.text}()"
  match String.ofList (Token.lower fn.text.toList), count with
  | "count", 0 => aggregate .countRows
  | "count", 1 => aggregate .count
  | "max", 1 => aggregate .max
  | "min", 1 => aggregate .min
  | "max", _ + 2 => return .scalar .max
  | "min", _ + 2 => return .scalar .min
  | "abs", 1 => return .scalar .abs
  | "char", _ => return .scalar .char
  | name, _ =>
    if name ∈ ["count", "max", "min", "abs"] then
      s.failAt fn.offset s!"wrong number of arguments to function {fn.text}()"
    else s.failAt fn.offset s!"no such function: {fn.text}"

/-- The block whose rows an aggregate goes through: the innermost one whose sources its arguments
look at, or the innermost one at all if they look at none. -/
def owner (s : Scope) (args : List (Formula Bound)) : Option Nat :=
  let sources := (args.flatMap Formula.allColumns).map ColumnRef.source
  let has (c : Context) : Bool := c.sources.any fun t => sources.contains t.number
  match s.contexts.find? has with
  | some c => some c.block
  | none => s.contexts.head?.map Context.block

/-- The result of an aggregate. -/
def aggregate (s : Scope) (name : Name) (fn : AggregateFunction) (distinct : Bool)
    (args : List (Formula Bound)) : Resolve (Formula Bound) := do
  let serial ← Resolve.fresh
  let owner := (s.owner args).getD serial
  modify fun r => { r with owners := owner :: r.owners }
  return .aggregate owner serial name fn distinct args

/-- Whether an expression is the word for `NULL`. -/
def isNullWord : Expr Query → Bool
  | .literal l _ => l == .null
  | _ => false

/-- Whether an expression is a single name. -/
def isName : Expr Query → Bool
  | .column [_] => true
  | _ => false

/-- The truth value that a formula is. -/
def truth? : Formula Bound → Option Bool
  | .literal l => if l.isTruth then l.decided? else none
  | _ => none

/-- Whether all clauses in which the expression stands are filters. -/
def inFilters (s : Scope) : Bool := s.contexts.all Context.isFilter

/-- The error of a query with several columns where one value is asked for. -/
def wrongWidth (width : Nat) : Error :=
  .failed .error s!"sub-select returns {width} columns - expected 1"

/-- The error of an expression that is too deep. -/
def tooDeep : Error :=
  .failed .error s!"Expression tree is too large (maximum depth {maxDepth})"

section Resolving

variable (nested : Scope → Query → Resolve Bound) (widthOf : Query → Nat)

/-- How many columns an expression has. -/
def width : Expr Query → Nat
  | .query q _ => widthOf q
  | .row items => items.length
  | _ => 1

/-- A comparison. Rows of which all values have to be equal are compared value by value. -/
def comparison (op : Operator) (a b : Formula Bound) : Formula Bound :=
  match a, b with
  | .row as, .row bs =>
    match (as.zip bs).map fun (a, b) => Formula.binary op a b with
    | first :: rest =>
      if (op = .eq ∨ op = .is) ∧ (as ++ bs).all (·.width = 1) then
        rest.foldl (fun e f => .binary .and e f) first
      else .binary op a b
    | [] => .binary op a b
  | _, _ => .binary op a b

mutual

/-- The formula of a part of an expression. Its error may still be waiting to be reported. -/
def resolvePart (s : Scope) : Expr Query → Resolve (Formula Bound)
  | .literal l _ => do
    Resolve.settle
    return .literal l
  | .oversized written offset => do
    Resolve.settle
    return .oversized written offset
  | .column path => s.lookUp path
  | .parameter number? offset => do
    Resolve.settle
    if number?.all fun n => 1 ≤ n ∧ n ≤ maxParameter then return .literal .parameter
    else s.failAt offset s!"variable number must be between ?1 and ?{maxParameter}"
  | .negate e => do
    Resolve.settle
    return .negate (← resolvePart s e)
  | .plus e => do
    Resolve.settle
    return .plus (← resolvePart s e)
  | .not e => do
    Resolve.settle
    return .not (← resolvePart s e)
  | .binary op l r => do
    if (op = .is ∨ op = .isNot) ∧ isNullWord r then
      let before := (← get).reach
      let e ← Resolve.attempt .null (resolvePart s l)
      if e.canBeNull || !s.inFilters then return .nullTest (op = .is) e
      modify fun r => { r with reach := before }
      return .literal (.known (op = .isNot))
    let early? : Option (Formula Bound) ←
      if (op = .is ∨ op = .isNot) ∧ isName r then some <$> resolvePart s r else pure none
    match early?.bind truth? with
    | some truth =>
      let e ← resolvePart s l
      return .truthTest (op = .isNot) truth e
    | none =>
      if op.isComparison && width widthOf l != width widthOf r then
        s.failAt ((Expr.binary op l r).place) "row value misused"
      Resolve.settle
      let a ← resolvePart s l
      let b ←
        match early? with
        | some b => pure b
        | none => resolvePart s r
      return comparison op a b
  | .cast e type => do
    Resolve.settle
    return .cast (← resolvePart s e) type
  | .call fn _ distinct args => do
    let callee? ← Resolve.attempt none (some <$> s.callee fn args.length)
    let inner : Scope :=
      match callee?, s.contexts with
      | some (.aggregate _), c :: outer =>
        { s with contexts := { c with aggregates := false } :: outer }
      | _, _ => s
    let args ← Resolve.attempt [] (resolveParts inner args)
    match callee? with
    | some (.aggregate f) => s.aggregate fn f distinct args
    | some (.scalar f) => return .call f args
    | none => return .null
  | .row items => do
    Resolve.settle
    return .row (← resolveParts s items)
  | .query q _ => do
    let (q, reach) ← Resolve.reaching (nested { s with points := true } q)
    return .query q (reach < s.contexts.length) q.affinity?

/-- The formulas of several parts of an expression. -/
def resolveParts (s : Scope) : List (Expr Query) → Resolve (List (Formula Bound))
  | [] => return []
  | e :: es => do
    let f ← resolvePart s e
    let fs ← resolveParts s es
    return f :: fs

end

/-- The formula of an expression. -/
def resolve (s : Scope) (e : Expr Query) : Resolve (Formula Bound) := do
  let depth := s.depth + e.height Query.height
  if maxDepth < depth then throw tooDeep
  let f ← resolvePart nested widthOf { s with depth } e
  Resolve.settle
  return f

end Resolving

end Scope

end RowCheck.Sql
