import RowCheck.Sql.Definition
import RowCheck.Sql.Scope

/-!
# Binding queries

The names in a query, resolved. First the sources and the stars of all queries in a statement are
looked at, then the names in their expressions, the last member of a compound query first.
-/

namespace RowCheck.Sql

/-- The table of a name, with the name of its schema. -/
def Database.locate (db : Database) (target : Target) : Except Error (String × Table) :=
  match db.find? target with
  | some found => .ok found
  | none => .error (noSuchTable target)

namespace Expansion

/-- Looking at sources can find a fault that gives way to a later one. -/
abbrev Expand := StateT (Option Error) (Except Error)

/-- The error of a star that stands for nothing. -/
def noSource : Option Name → Error
  | none => .failed .error "no tables specified"
  | some table => .failed .error s!"no such table: {table.text}"

/-- The name of a source in a query. -/
def sourceName {Q : Type} (db : Database) : SourceTerm Q → String
  | .table target alias? | .call target alias? =>
    alias?.getD ((db.find? target).elim target.table.text (·.2.name))
  | .query _ alias? => alias?.getD ""

/-- The error of a table that is called. -/
def noFunction (target : Target) : Error :=
  .failed .error s!"'{target.table.text}' is not a function"

/-- The width of a query: that of its first and that of its last member. -/
abbrev Widths := Nat × Nat

/-- The widths of the sources of a member, under their names. -/
def sources {Q : Type} (db : Database) (expand : Q → Expand Widths) (joined : List (Joined Q)) :
    Expand (List (String × Nat)) :=
  joined.mapM fun j => do
    match j.source with
    | .table target _ =>
      let (_, t) ← (db.locate target : Except Error _)
      return (sourceName db j.source, t.columns.length)
    | .call target _ =>
      let _ ← (db.locate target : Except Error _)
      throw (noFunction target)
    | .query q _ => return (sourceName db j.source, (← expand q).1)

/-- The width of an item. -/
def itemWidth {Q : Type} (sources : List (String × Nat)) (item : Item Q) : Expand Nat := do
  let star (wanted : List (String × Nat)) (table? : Option Name) : Expand Nat := do
    if wanted.isEmpty then set (some (noSource table?))
    return wanted.foldl (fun n s => n + s.2) 0
  match item with
  | .all => star sources none
  | .allOf table => star (sources.filter fun s => sameName s.1 table.text) (some table)
  | .expr .. => return 1

/-- The error of a result with too many columns. -/
def tooWide : Error := .failed .error "too many columns in result set"

/-- The width of a member; `tail` are the expressions that follow it. -/
def memberWidth {Q : Type} (db : Database) (expand : Q → Expand Widths) (tail : List (Expr Q)) :
    Member Q → Expand Nat
  | .values rows => do
    let width := (rows.head?.map List.length).getD 0
    if maxColumns < width then throw tooWide
    for q in Expr.queriesOfAll (rows.flatten ++ tail) do
      let _ ← expand q
    return width
  | .select _ items joined filter? groupBy having? => do
    let found ← sources db expand joined
    if let some e ← get then throw e
    let width := (← items.mapM (itemWidth found)).foldl (· + ·) 0
    if maxColumns < width then throw tooWide
    let shown : List (Expr Q) := items.filterMap fun
      | .expr e _ _ => some e
      | _ => none
    for q in Expr.queriesOfAll (shown ++ filter?.toList ++ joined.filterMap Joined.on? ++ groupBy
        ++ having?.toList ++ tail) do
      let _ ← expand q
    return width

/-- The widths of a compound query. -/
def compoundWidth {Q : Type} (db : Database) (expand : Q → Expand Widths) (c : Compound Q) :
    Expand Widths := do
  let tail := c.orderBy.map OrderTerm.expr ++ c.limit?.toList ++ c.offset?.toList
  match (c.others.map (·.2)).reverse with
  | [] =>
    let width ← memberWidth db expand tail c.first
    return (width, width)
  | last :: others =>
    let width ← memberWidth db expand tail last
    for m in others do
      let _ ← memberWidth db expand [] m
    return (← memberWidth db expand [] c.first, width)

/-- The widths of a query whose queries nest at most so deep. -/
def queryWidth (db : Database) : Nat → Query → Expand Widths
  | 0, _ => throw Scope.tooDeep
  | depth + 1, q => compoundWidth db (queryWidth db depth) q.compound

/-- Looks at the sources and stars of a query. -/
def check (db : Database) (q : Query) : Except Error Unit := do
  let (_, fault?) ← (queryWidth db maxNesting q).run none
  if let some e := fault? then throw e

/-- How many columns the value of a query has. -/
def width (db : Database) (q : Query) : Nat :=
  match (queryWidth db maxNesting q).run none with
  | .ok ((_, width), _) => width
  | .error _ => 1

end Expansion

/-- A number as the place in a list. -/
def ordinal (n : Nat) : String :=
  let ending :=
    if n / 10 % 10 = 1 then "th"
    else if n % 10 = 1 then "st"
    else if n % 10 = 2 then "nd"
    else if n % 10 = 3 then "rd"
    else "th"
  s!"{n}{ending}"

/-- What is said of a term that is no place of an output. -/
def outOfRange (clause : String) (index width : Nat) : String :=
  s!"{ordinal (index + 1)} {clause} BY term out of range - should be between 1 and {width}"

namespace ScopeSource

/-- A table as a source. -/
def ofTable (number : Nat) (name schema : String) (t : Table) : ScopeSource :=
  let rowRef : ColumnRef := ⟨number, none, some .integer, true⟩
  { number, name
    schema? := some schema
    columns := t.columns.zipIdx.map fun (c, i) =>
      if t.key? = some i then ⟨rowRef, c.name, some "INTEGER"⟩
      else ⟨⟨number, some i, some c.affinity, c.notNull⟩, c.name, c.declared?⟩
    rowNumber? :=
      let label := ((t.key?.bind fun k => t.columns[k]?).map TableColumn.name).getD "rowid"
      some ⟨rowRef, label, some "INTEGER"⟩ }

/-- Labels as the columns of a source have them: one that stands already gets a number in the place
of the number that it ends with. -/
def uniqueLabels (labels : List String) : List String :=
  (labels.foldl (fun done label => free done (labels.length + 1) 0 label :: done) []).reverse
where
  base (label : List Char) : List Char :=
    match label.reverse.dropWhile Char.isDigit with
    | ':' :: r => r.reverse
    | _ => label
  free (done : List String) : Nat → Nat → String → String
    | 0, _, label => label
    | fuel + 1, count, label =>
      if done.any (sameName label) then
        let stem := String.ofList (base label.toList)
        free done fuel (count + 1) s!"{stem}:{count + 1}"
      else label

/-- Which kinds of values a formula can have: numbers, texts, binaries. -/
def kinds : Formula Bound → Bool × Bool × Bool
  | .derived e | .plus e => kinds e
  | .literal l =>
    match l.value, l.mark with
    | .null, .text "" => (false, false, false)
    | .null, _ => (true, true, true)
    | .text _, _ => (false, true, false)
    | .blob _, _ => (false, false, true)
    | _, _ => (true, false, false)
  | .binary .concat _ _ => (false, true, true)
  | .call .. | .aggregate .. => (true, true, true)
  | .column c | .fixed c _ => ofAffinity c.affinity?
  | .cast _ type => ofAffinity (some (.ofDeclared type.toList))
  | .query _ _ affinity? => ofAffinity affinity?
  | _ => (true, false, false)
where
  ofAffinity : Option Affinity → Bool × Bool × Bool
    | some .text => (false, true, true)
    | some .blob | none => (true, true, true)
    | some _ => (true, false, true)

/-- The affinity of a column of several blocks: the first one that a block gives it, unless another
block has values of a kind that it would change. -/
def unionAffinity? (formulas : List (Formula Bound)) : Option Affinity :=
  match formulas.findSome? Formula.affinity? with
  | none => none
  | some .blob => some .blob
  | some affinity =>
    let before := formulas.takeWhile fun e => e.affinity?.isNone
    let others := before ++ (formulas.drop (before.length + 1))
    let numbers := others.any fun e => (kinds e).1
    let texts := others.any fun e => (kinds e).2.1
    if affinity = .text then if numbers then some .blob else some .text
    else if texts then some .blob
    else if formulas.length = 1 then some affinity
    else
      match formulas with
      | .cast .. :: _ => some .numeric
      | _ => some affinity

/-- A query as a source. -/
def ofQuery (number : Nat) (name : String) (q : Bound) : ScopeSource :=
  let blocks := q.retrieval.blocks
  let labels := uniqueLabels (q.retrieval.first.outputs.map Output.innerLabel)
  let column (label : String) (i : Nat) : ScopeColumn :=
    let formulas := blocks.filterMap fun b => b.outputs[i]?.map Output.formula
    let declared? := q.retrieval.last.outputs[i]?.bind Output.declared?
    ⟨⟨number, some i, unionAffinity? formulas, false⟩, label, declared?⟩
  ⟨number, name, none, labels.zipIdx.map fun (label, i) => column label i, none⟩

end ScopeSource

namespace Binding

section Block

variable (nested : Scope → Query → Resolve Bound) (widthOf : Query → Nat)

/-- Binds a source. -/
def source (s : Scope) (j : Joined Query) : Resolve (Source Bound × ScopeSource) := do
  let number ← Resolve.fresh
  match j.source with
  | .table target alias? =>
    let (schema, t) ← (s.database.locate target : Except Error _)
    return (⟨number, .table schema t, j.crossed, []⟩,
      .ofTable number (alias?.getD t.name) schema t)
  | .call target _ => throw (Expansion.noFunction target)
  | .query q alias? =>
    let (q, reach) ← Resolve.reaching (nested { s with points := true } q)
    Resolve.settle
    return (⟨number, .query q (reach < s.contexts.length), j.crossed, []⟩,
      .ofQuery number (alias?.getD "") q)

/-- The column of a source or of a source around it. -/
def scopeColumn? (s : Scope) (c : ColumnRef) : Option ScopeColumn :=
  s.contexts.findSome? fun context =>
    context.sources.findSome? fun t =>
      (t.columns ++ t.rowNumber?.toList).find? fun column => column.ref.same c

/-- A column that a star stands for. Among several sources it is looked for by its name. -/
def starOutput (sources : List ScopeSource) (t : ScopeSource) (c : ScopeColumn) :
    Resolve (Output Bound) := do
  let isSame (u : ScopeSource) : Bool :=
    sameName u.name t.name && u.schema? == t.schema? && u.columns.any (sameName ·.label c.label)
  if !t.name.isEmpty && 1 < (sources.filter isSame).length then
    let schema := t.schema?.getD "*"
    throw (.failed .error s!"ambiguous column name: {schema}.{t.name}.{c.label}")
  Scope.noteColumn c.ref
  return ⟨.column c.ref, c.label, c.label, true, c.declared?⟩

/-- The name that an expression gives to a column of a source, at a place of the result. -/
def innerLabel (e : Expr Query) (text? : Option String) (index : Nat) : String :=
  let name? :=
    match e with
    | .column path => path.getLast?.map Name.text
    | _ => text?
  let name := name?.getD ""
  if name?.isNone || sameName name "true" || sameName name "false" then s!"column{index + 1}"
  else name

/-- The output of an expression. -/
def output (s : Scope) (e : Expr Query) (alias? text? : Option String) (index : Nat) :
    Resolve (Output Bound) := do
  let f ← s.resolve nested widthOf e
  let column? :=
    match f with
    | .column c => scopeColumn? s c
    | _ => none
  let declared? :=
    match f with
    | .query q _ _ => q.retrieval.last.outputs.head?.bind Output.declared?
    | _ => column?.bind ScopeColumn.declared?
  let label := (alias? <|> column?.map ScopeColumn.label <|> text?).getD s!"column{index + 1}"
  let inner : String :=
    match alias? with
    | some a => if sameName a "true" || sameName a "false" then s!"column{index + 1}" else a
    | none => innerLabel e text? index
  return ⟨f, label, inner, alias?.isSome, declared?⟩

/-- The outputs of items, each with whether there is an aggregate of the block in it. -/
def outputs (s : Scope) (block : Nat) (sources : List ScopeSource) :
    Nat → List (Item Query) → Resolve (List (Output Bound × Bool))
  | _, [] => return []
  | index, item :: items => do
    let (os, owners) ← Resolve.owning do
      match item with
      | .all => sources.flatMapM fun t => t.columns.mapM (starOutput sources t)
      | .allOf table =>
        (sources.filter fun t => sameName t.name table.text).flatMapM fun t =>
          t.columns.mapM (starOutput sources t)
      | .expr e alias? text => return [← output nested widthOf s e alias? (some text) index]
    let rest ← outputs s block sources (index + os.length) items
    return os.map (·, owners.contains block) ++ rest

/-- A term of an order or of groups, resolved: the place of the output that it is, or its formula.
-/
abbrev Term := Option Nat × Formula Bound

/-- The output that has an expression as its name. -/
def namedOutput? (outs : List (Output Bound)) : Expr Query → Option Nat
  | .column [n] => outs.findIdx? fun o => o.isNamed && sameName o.label n.text
  | _ => none

/-- The last output that is the same as a formula. -/
def lastSame? (outs : List (Output Bound)) (f : Formula Bound) : Option Nat :=
  ((outs.zipIdx.filter fun (o, _) => f.same o.formula).getLast?).map (·.2)

/-- The terms of a clause. A term is the name of an output, if that counts in the clause, or its
place, or else an expression. -/
def terms (s : Scope) (clause : String) (outs : List (Output Bound)) (named : Bool)
    (es : List (Expr Query)) : Resolve (List Term) := do
  let found ← es.zipIdx.mapM fun (e, index) => do
    let message := outOfRange clause index outs.length
    match if named then namedOutput? outs e else none, e.integer? with
    | some i, _ => return (some i, .null)
    | none, some (i, offset) =>
      if i < 1 ∨ 0xFFFF < i then s.failAt offset message
      else return (some (i.toNat - 1), .null)
    | none, none =>
      let f ← s.resolve nested widthOf e
      return ((lastSame? outs f, f) : Term)
  if maxColumns < es.length then
    throw (.failed .error s!"too many terms in {clause} BY clause")
  found.zipIdx.mapM fun ((place?, f), index) => do
    match place? with
    | none => return (none, f)
    | some i =>
      match outs[i]? with
      | some o => return (some i, o.formula)
      | none => throw (.failed .error (outOfRange clause index outs.length))

/-- A block that is being bound: what its outputs can be named by is kept for the order of a
compound query. -/
structure Bindings where
  block : Block Bound
  keys : List (Key Bound)
  context : Context
  /-- Whether it is a single row of values. -/
  isRow : Bool

/-- A block without sources, conditions and groups. -/
def plainBlock (number : Nat) (outputs : List (Output Bound)) (complex : Bool) : Block Bound :=
  ⟨number, false, outputs, complex, [], [], [], [], false⟩

/-- Binds several rows of constants: a source of its own, from which all columns are taken. -/
def valueRows (s : Scope) (rows : List (List (Expr Query))) : Resolve Bindings := do
  let number ← Resolve.fresh
  let from_ ← Resolve.fresh
  let empty : Scope := { s with contexts := [] }
  let formulas ← rows.zipIdx.mapM fun (row, i) =>
    row.mapM fun e => empty.resolve nested widthOf (if i = 0 then e else e.withTruth)
  let width := (rows.head?.map List.length).getD 0
  let columns := (List.range width).map fun i =>
    let affinity? := ((formulas.head?.bind fun row => row[i]?).bind Formula.affinity?)
    (⟨⟨from_, some i, affinity?, false⟩, s!"column{i + 1}", none⟩ : ScopeColumn)
  let scopeSource : ScopeSource := ⟨from_, "", none, columns, none⟩
  let outs ← columns.mapM (starOutput [scopeSource] scopeSource)
  let block := { plainBlock number outs false with
    sources := [⟨from_, .rows formulas, false, []⟩] }
  return ⟨block, [], ⟨number, [scopeSource], [], true, false⟩, false⟩

/-- Binds a member of a compound query; `order?` is the order of the only member. -/
def member (s : Scope) (order? : Option (List (OrderTerm Query))) :
    Member Query → Resolve Bindings
  | .values [row] => do
    let number ← Resolve.fresh
    let context : Context := ⟨number, [], [], true, false⟩
    let inner := { s with contexts := context :: s.contexts }
    let (outs, owners) ← Resolve.owning (row.zipIdx.mapM fun (e, i) =>
      output nested widthOf inner e none none i)
    let block := { plainBlock number outs (row.any Expr.isComplex) with
      isAggregate := owners.contains number }
    return ⟨block, [], context, true⟩
  | .values rows => valueRows nested widthOf s rows
  | .select distinct items joined filter? groupBy having? => do
    let found ← joined.mapM (source nested s)
    let number ← Resolve.fresh
    let base : Context := ⟨number, found.map (·.2), [], true, false⟩
    let within (c : Context) : Scope := { s with contexts := c :: s.contexts }
    let outs ← outputs nested widthOf (within base) number base.sources 0 items
    let isAggregate := !groupBy.isEmpty || outs.any (·.2)
    let aliases : List Alias := (outs.filter (·.1.isNamed)).map fun (o, isAggregate) =>
      ⟨o.label, o.formula, isAggregate, o.formula.width⟩
    let named := { base with aliases, aggregates := isAggregate }
    if having?.isSome && !isAggregate then
      throw (.failed .error "HAVING clause on a non-aggregate query")
    let having ← having?.mapM ((within named).resolve nested widthOf)
    let filterScope := within { named with isFilter := true }
    let depthOf (e : Expr Query) : Nat := s.depth + e.height Query.height
    let condition (points : Bool) (e : Expr Query) : Resolve (Formula Bound) := do
      if maxDepth < depthOf e then throw Scope.tooDeep
      Scope.resolvePart nested widthOf { filterScope with points, depth := depthOf e } e
    let filter ← filter?.mapM (condition true)
    let joins ← (joined.filterMap Joined.on?).mapM (condition false)
    Resolve.settle
    let alone : Scope := { s with contexts := [{ named with aggregates := true }] }
    let outputs := outs.map (·.1)
    let keys ←
      match order? with
      | none => pure []
      | some ts =>
        let found ← Resolve.apart
          (terms nested widthOf alone "ORDER" outputs true (ts.map OrderTerm.expr))
        pure ((found.zip ts).map fun ((place?, f), t) => ⟨f, t.descending, place?⟩)
    let (groups, owners) ← Resolve.apart
      (Resolve.owning (terms nested widthOf alone "GROUP" outputs false groupBy))
    let grouped := groups.filterMap (·.1)
    if owners.contains number || grouped.any fun i => (outs[i]?.any (·.2)) then
      throw (.failed .error "aggregate functions are not allowed in the GROUP BY clause")
    let conditions := (filter.toList.flatMap Formula.conjuncts).map (⟨·, false⟩)
      ++ (joins.flatMap Formula.conjuncts).map (⟨·, true⟩)
    let complex := items.any fun
      | .expr e _ _ => e.isComplex
      | _ => false
    let block : Block Bound := ⟨number, distinct, outputs, complex, found.map (·.1), conditions,
      groups.map fun (place?, f) => ⟨f, false, place?⟩, having.toList.flatMap Formula.conjuncts, isAggregate⟩
    return ⟨block, keys, named, false⟩

/-- The error of a member that is wider or narrower than the one after it. -/
def unevenMembers (op : SetOperator) (isRow : Bool) : Error :=
  if isRow then .failed .error "all VALUES must have the same number of terms"
  else .failed .error
    s!"SELECTs to the left and right of {op.keyword} do not have the same number of result columns"

/-- Binds the members, the last one first. -/
def members (s : Scope) (order? : Option (List (OrderTerm Query))) :
    List (SetOperator × Member Query) → Resolve (List (SetOperator × Bindings))
  | [] => return []
  | (op, m) :: ms => do
    let others ← members s order? ms
    let b ← member nested widthOf s order? m
    if let (next, c) :: _ := others then
      if c.block.outputs.length ≠ b.block.outputs.length then
        throw (unevenMembers next c.isRow)
    return (op, b) :: others

/-- The output of a member that a term of the order of a compound query is. -/
def compoundPlace? (s : Scope) (b : Bindings) (index : Nat) (e : Expr Query) :
    Resolve (Option Nat) := do
  let outs := b.block.outputs
  match e.integer? with
  | some (i, offset) =>
    if i < 1 ∨ outs.length < i then s.failAt offset (outOfRange "ORDER" index outs.length)
    else return some (i.toNat - 1)
  | none =>
    match namedOutput? outs e with
    | some i => return some i
    | none =>
      let refused : Scope → Query → Resolve Bound := fun _ _ => throw Scope.tooDeep
      let alone : Scope := { s with contexts := [{ b.context with aggregates := true }] }
      let f? ← Resolve.attempt none (some <$> alone.resolve refused widthOf e)
      modify fun r => { r with fault? := none }
      return f?.bind fun f => outs.findIdx? fun o => o.formula.same f

/-- The order of a compound query: each term is a column of one of the members, the first ones
first. -/
def compoundOrder (s : Scope) (order : List (OrderTerm Query)) :
    List (Option Nat) → List Bindings → Resolve (List (Key Bound))
  | places, [] =>
    (order.zip places).zipIdx.mapM fun ((t, place?), index) => do
      match place? with
      | some i => return ⟨.null, t.descending, some i⟩
      | none =>
        throw (.failed .error
          s!"{ordinal (index + 1)} ORDER BY term does not match any column in the result set")
  | places, b :: bs => do
    let places ← (order.zip places).zipIdx.mapM fun ((t, place?), index) => do
      match place? with
      | some i => return some i
      | none => compoundPlace? widthOf s b index t.expr
    compoundOrder s order places bs

/-- A block whose sources know which of their columns are used. -/
def withUses (uses : List (Nat × Nat)) (b : Block Bound) : Block Bound :=
  { b with
    sources := b.sources.map fun s =>
      { s with used := uses.filterMap fun (number, i) => if number = s.number then some i else none } }

/-- Binds a compound query. -/
def compound (s : Scope) (c : Compound Query) : Resolve (Retrieval Bound) := do
  let empty : Scope := { s with contexts := [] }
  let window := c.limit?.toList ++ c.offset?.toList
  let depth := s.depth + Expr.heightOfAll Query.height window + 1
  if !window.isEmpty && maxDepth < depth then throw Scope.tooDeep
  let number : Expr Query → Resolve (Formula Bound) :=
    Scope.resolvePart nested widthOf { empty with depth }
  let limit? ← c.limit?.mapM number
  let offset? ← c.offset?.mapM number
  if !window.isEmpty then Resolve.settle
  let order? := if c.others.isEmpty then some c.orderBy else none
  let bound ← members nested widthOf s order? ((.unionAll, c.first) :: c.others)
  match bound with
  | [] => throw Scope.tooDeep
  | (_, first) :: others =>
    let keys ←
      if c.others.isEmpty then pure first.keys
      else if maxColumns < c.orderBy.length then
        throw (.failed .error "too many terms in ORDER BY clause")
      else
        Resolve.apart (compoundOrder widthOf s c.orderBy (c.orderBy.map fun _ => none)
          (first :: others.map (·.2)))
    let uses := (← get).uses
    return ⟨withUses uses first.block, others.map fun (op, b) => (op, withUses uses b.block), keys,
      limit?, offset?⟩

end Block

/-- Binds a query whose queries nest at most so deep. -/
def query (widthOf : Query → Nat) : Nat → Scope → Query → Resolve Bound
  | 0, _, _ => throw Scope.tooDeep
  | depth + 1, s, q => do return .mk (← compound (query widthOf depth) widthOf s q.compound)

/-- Binds a query inside an expression of a statement that is no query itself: its sources are
looked at when it is bound. -/
def lateQuery (s : Scope) (q : Query) : Resolve Bound := do
  (Expansion.check s.database q : Except Error _)
  query (Expansion.width s.database) maxNesting s q

end Binding

namespace Database

/-- Binds a query that is a statement, or the source of an insertion. -/
def bind (db : Database) (sql : String) (q : Query) : Except Error Bound := do
  Expansion.check db q
  let scope : Scope := ⟨sql, db, [], 0, true⟩
  let bound := Binding.query (Expansion.width db) maxNesting scope q
  return (← bound.run Resolve.initial).1

end Database

/-- The columns of the result of a query. -/
def Bound.columns (q : Bound) : List RelationColumn :=
  q.retrieval.first.outputs.map fun o => ⟨o.label, o.declared?, o.formula.affinity?⟩

end RowCheck.Sql
