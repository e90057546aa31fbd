import RowCheck.Sql.Aggregation
import RowCheck.Sql.Run
import RowCheck.Sql.Scan
import RowCheck.Sql.Reduction.Counting
import RowCheck.Sql.Reduction.KnownValue

/-!
# Making queries ready

How a bound query comes to run. A block goes through its sources, forms groups if that is asked, and
sorts what comes of them. The blocks of a compound query run one after the other, or, if it has an
order, side by side, each of them sorted.
-/

namespace RowCheck.Sql

/-- The rows of a table. -/
def Database.rowsOf (db : Database) (schema table : String) : List StoredRow :=
  (((db.schema? schema).bind (·.table? table)).map Table.rows).getD []

namespace Preparation

/-- The estimate of the rows of a block before anything is known about it. -/
def someRows : Int := 320

/-- The estimate of the groups of a block before anything is known about them. -/
def someGroups : Int := 66

/-- What a query is asked for. -/
structure Demand where
  /-- Where its rows go. -/
  destination : Destination
  /-- The order in which they are wanted. -/
  keys : List (Key Bound)
  /-- Whether the order is that of several blocks: its keys are not told to be the results or groups
  of one of them. -/
  isShared : Bool
  /-- The estimate of a limit that is known. -/
  limit? : Option Int

/-- The keys by which results are sorted. -/
def Demand.order (d : Demand) : List OrderKey :=
  d.keys.map fun k => ⟨k.formula, k.descending, false⟩

/-- Whether a source is a query that gives its rows one by one. -/
def streams (sources : List (Source Bound)) (place : Nat) : Bool :=
  let isTable (s : Source Bound) : Bool :=
    match s.origin with
    | .table .. => true
    | _ => false
  place = 0
    || ((sources.take (place + 1)).all (!·.crossed) && (sources.take place).all isTable)

section Code

variable (coder : Coder) (s : Setting)

/-- A source, made ready. A query that does not give its rows one by one is run when its loop is
reached, once if it looks at nothing around it. All columns of a query count as used. -/
def codeSource (b : Block Bound) (place : Nat) (source : Source Bound) : Coding ReadySource := do
  let candidate (table? : Option Table) (rows : Int) (used : List Nat) (correlated : Bool) :
      Candidate :=
    ⟨source.number, table?, rows, source.crossed, used, correlated⟩
  match (source.narrow b.conditions).origin with
  | .table schema t =>
    let rows (env : Env) : Rows StoredRow := .ofList (env.database.rowsOf schema t.name)
    return ⟨candidate (some t) Estimate.tableRows source.used false, rows, true, s.database⟩
  | .rows rows =>
    let formulas ← rows.mapM (Formula.codeAll coder s)
    let told (env : Env) : Rows StoredRow := (Rows.ofList formulas).filterMap fun row => do
      return some ⟨0, ← Formula.evalAll env row⟩
    let used := List.range (rows.headD []).length
    return ⟨candidate none Estimate.tableRows used false, told, false, s.database⟩
  | .query (.mk r) correlated =>
    let used := List.range r.first.outputs.length
    let q : Bound := .mk r
    if streams b.sources place then
      let ready ← coder s .stream q
      let rows (env : Env) : Rows StoredRow := (ready.rows env).map (⟨0, ·⟩)
      return ⟨candidate none ready.estimate used correlated, rows, false, s.database⟩
    else
      let ready ← coder s .collected q
      let collect (env : Env) : Except Error (List StoredRow) := do
        return (← (ready.rows env).toList).map (⟨0, ·⟩)
      let once := Thunk.mk fun _ => collect (.start s.database)
      let rows (env : Env) : Rows StoredRow :=
        .ofExcept (.ofList <$> if correlated then collect env else once.get)
      return ⟨candidate none ready.estimate used correlated, rows, true, s.database⟩

/-- A block without groups, made ready. -/
def codePlain (d : Demand) (sources : List ReadySource) (b : Block Bound) : Coding Run := do
  let results := b.outputs.map Output.formula
  let aim : Aim := ⟨d.order, .sorting, if b.distinct then some results else none, false, false,
    d.limit?, results.length, s.repeated, false⟩
  let scan ← Scan.make coder s sources (b.conditions.map Condition.formula) aim
  let inside := { s with repeated := s.repeated + scan.plan.rows }
  let items ← Formula.codeAll coder inside results
  let keys ← Formula.codeAll coder inside (d.keys.map Key.formula)
  let sorts := scan.plan.sorted < d.keys.length
  let sorter : Sorter := ⟨b.distinct && scan.plan.distinct != .unique, if sorts then keys else [],
    d.keys.map Key.descending, scan.plan.sorted, d.destination == .stream && !b.distinct⟩
  let start (env : Env) : Except Error (Option Nat → Rows Pending) :=
    return fun bound? =>
      sorter.rows bound? ((scan.rows env).ended.map fun env =>
        (env, fun () => Formula.evalAll env items))
  return ⟨min scan.plan.rows (d.limit?.getD someRows), start⟩

/-- The aggregates of a block in some formulas, each with the formulas that are the same. -/
def aggregatesOf (b : Block Bound) (formulas : List (Formula Bound)) :
    List (List Nat × Formula Bound) :=
  let serial : Formula Bound → Nat
    | .aggregate _ n _ _ _ _ => n
    | _ => 0
  (formulas.flatMap (·.aggregatesOf b.number)).foldl (fun found e =>
    match found.findIdx? fun (_, f) => f.same e with
    | some i => found.modify i fun (serials, f) => (serial e :: serials, f)
    | none => found ++ [([serial e], e)]) []

/-- Aggregates, made ready. -/
def codeAggregates (aggregates : List (List Nat × Formula Bound)) : Coding (List Accumulator) :=
  aggregates.filterMapM fun (serials, e) => do
    match e with
    | .aggregate _ _ _ fn distinct args =>
      return some ⟨serials, fn, distinct, ← Formula.codeAll coder s args⟩
    | _ => return none

/-- What an aggregate is told of, if it is the only one and counts equal values once. -/
def distinctArgs? : List (List Nat × Formula Bound) → Option (List (Formula Bound))
  | [(_, .aggregate _ _ _ _ true args)] => if args.isEmpty then none else some args
  | _ => none

/-- The groups of a block: the formulas of its results that are keys take the values of these. -/
structure Grouping where
  keys : List (Formula Ready)
  down : List Bool
  /-- Whether rows have to be sorted to have groups side by side. -/
  sorts : Bool
  accumulators : List Accumulator
  having : List (Formula Ready)
  /-- The results, each with the key whose value it has. -/
  items : List (Formula Ready × Option Nat)

namespace Grouping

/-- The rows of groups side by side, with the values of the keys. -/
def keyed (g : Grouping) (rows : Rows Env) : Rows (Values × Env) :=
  let all : Rows (Values × Env) := rows.ended.filterMap fun env => do
    return some (← Formula.evalAll env g.keys, env)
  if g.sorts then .ofExcept ((.ofList <| sortBy g.down (·.1) ·) <$> all.toList) else all

/-- The results of a group. -/
def results (g : Grouping) (env : Env) (keys : Values) : Except Error Values :=
  g.items.mapM fun (e, key?) =>
    match key? with
    | some i => .ok (keys.getD i .null)
    | none => e.eval env

/-- The groups of rows for which the conditions hold. -/
def rows (g : Grouping) (base : Env) (rows : Rows Env) : Rows (Env × Pending) :=
  (Group.ofRows g.accumulators none (g.keyed rows)).filterMap fun group => do
    let env := group.told g.accumulators base
    return if ← holdAll env g.having then some (env, fun () => g.results env group.keys) else none

end Grouping

/-- The place of the key whose value an output has. -/
def keyOf? (b : Block Bound) (place : Nat) (o : Output Bound) : Option Nat :=
  let isColumn : Bool :=
    match o.formula.bare with
    | .column _ => true
    | _ => false
  if isColumn then none else b.groupBy.findIdx? (·.place? == some place)

/-- A block with groups, made ready. `use` tells what the order of its rows is good for. -/
def codeGrouped (d : Demand) (use : OrderUse) (sources : List ReadySource) (b : Block Bound) :
    Coding Run := do
  let isPaired := b.groupBy.length = d.keys.length
  let groupBy :=
    if isPaired then
      (b.groupBy.zip d.keys).map fun (k, o) => { k with descending := o.descending }
    else b.groupBy
  let isOrdered :=
    isPaired && !d.isShared && (groupBy.zip d.keys).all fun (k, o) => k.formula.same o.formula
  let b := { b with groupBy }
  let items := b.outputs.map Output.formula
  let found := aggregatesOf b (items ++ d.keys.map Key.formula ++ b.having)
  let b := b.withEarlyConditions
  let groups := b.groupBy.map Key.formula
  let aim : Aim := ⟨b.groupBy.map fun k => ⟨k.formula, k.descending, false⟩, use,
    (distinctArgs? found).map fun args => groups ++ args.take 1, isOrdered, false, none,
    items.length, s.repeated, false⟩
  let scan ← Scan.make coder s sources (b.conditions.map Condition.formula) aim
  let inside := { s with repeated := s.repeated + scan.plan.rows }
  let keys ← Formula.codeAll coder inside groups
  let sorts := scan.plan.sorted != b.groupBy.length
  let accumulators ← codeAggregates coder (if sorts then s else inside) found
  let outside := { s with owners := b.number :: s.owners }
  let having ← Formula.codeAll coder outside b.having
  let told ← Formula.codeAll coder outside items
  let order ← Formula.codeAll coder outside (d.keys.map Key.formula)
  let grouping : Grouping := ⟨keys, b.groupBy.map Key.descending, sorts, accumulators, having,
    told.zip (b.outputs.zipIdx.map fun (o, i) => keyOf? b i o)⟩
  let isSorted := isOrdered && (sorts || scan.plan.hasSortedGroups)
  let sorter : Sorter := ⟨b.distinct, if isSorted then [] else order, d.keys.map Key.descending, 0,
    d.destination == .stream && !b.distinct⟩
  let start (env : Env) : Except Error (Option Nat → Rows Pending) :=
    return fun bound? => sorter.rows bound? (grouping.rows env (scan.rows env))
  return ⟨min (d.limit?.getD someRows) someGroups, start⟩

/-- The order in which the greatest or least value comes first, if a block asks for nothing but one.
-/
def extremeOrder (b : Block Bound) : List (List Nat × Formula Bound) → List OrderKey
  | [(_, .aggregate _ _ _ fn _ [arg])] =>
    if !b.having.isEmpty then []
    else
      match fn with
      | .max => [⟨arg, true, false⟩]
      | .min => [⟨arg, false, arg.canBeNull⟩]
      | _ => []
  | _ => []

/-- Whether formulas look at columns of a block outside of its aggregates. -/
def looksAtColumns (b : Block Bound) (formulas : List (Formula Bound)) : Bool :=
  let isOwn (c : ColumnRef) : Bool := b.sources.any (·.number == c.source)
  let count (es : List (Formula Bound)) : Nat := ((es.flatMap Formula.allColumns).filter isOwn).length
  let args : Formula Bound → List (Formula Bound)
    | .aggregate _ _ _ _ _ args => args
    | _ => []
  count ((formulas.flatMap (·.aggregatesOf b.number)).flatMap args) < count formulas

/-- A block whose rows are all one group, made ready. -/
def codeWhole (d : Demand) (sources : List ReadySource) (b : Block Bound) : Coding Run := do
  let items := b.outputs.map Output.formula
  let all := items ++ d.keys.map Key.formula ++ b.having
  let found := aggregatesOf b all
  let order := extremeOrder b found
  let distinct? := if looksAtColumns b all then none else distinctArgs? found
  let aim : Aim := ⟨order, .sorting, distinct?, false, !order.isEmpty, none, items.length, s.repeated,
    false⟩
  let scan ← Scan.make coder s sources (b.conditions.map Condition.formula) aim
  let inside := { s with repeated := s.repeated + scan.plan.rows }
  let accumulators ← codeAggregates coder inside found
  let outside := { s with owners := b.number :: s.owners }
  let having ← Formula.codeAll coder outside b.having
  let told ← Formula.codeAll coder outside items
  let stops := !order.isEmpty && scan.plan.isSortedInside && scan.plan.sorted != 0
  let rows (base : Env) : Rows Pending :=
    .ofExcept do
      let group ← Group.whole accumulators stops (scan.rows base)
      let env := group.told accumulators base
      return if ← holdAll env having then .single fun () => Formula.evalAll env told else .done
  let start (env : Env) : Except Error (Option Nat → Rows Pending) :=
    return fun _ => rows env
  return ⟨0, start⟩

/-- A key with the formula of the output that it is. -/
def filledKey (b : Block Bound) (k : Key Bound) : Key Bound :=
  match k.place?.bind (b.outputs[·]?) with
  | some o => { k with formula := o.formula }
  | none => k

/-- Whether a block leaves out equal results that come sorted by all of their values. -/
def sortsResults (d : Demand) (b : Block Bound) : Bool :=
  b.distinct && !b.isAggregate && !d.isShared && d.keys.length = b.outputs.length
    && (d.keys.zip b.outputs).all fun (k, o) => !k.descending && k.formula.same o.formula

/-- A block, made ready. -/
def codeBlock (d : Demand) (b : Block Bound) : Coding Run := do
  let b := b.withKnownValues
  let d := { d with keys := d.keys.map (filledKey b) }
  let b := if d.keys.isEmpty then b.withCounts else b
  let sources ← b.sources.zipIdx.mapM fun (source, place) => codeSource coder s b place source
  if sortsResults d b then
    let groupBy := b.outputs.zipIdx.map fun (o, i) => (⟨o.formula, false, some i⟩ : Key Bound)
    codeGrouped coder s d .distinct sources { b with distinct := false, groupBy }
  else if !b.groupBy.isEmpty then codeGrouped coder s d .grouping sources b
  else if b.isAggregate then codeWhole coder s d sources b
  else codePlain coder s d sources b

section Compounds

variable (member : Demand → Block Bound → Coding Run)

/-- The estimate of a run of which a known number of rows is wanted. -/
def limited (limit? : Option Int) (r : Run) : Run :=
  match limit? with
  | some n => { r with estimate := min n r.estimate }
  | none => r

/-- The blocks of a compound query without an order, the last of them first. -/
def codeChain (first : Block Bound) : Demand → List (SetOperator × Block Bound) → Coding Run
  | d, [] => member d first
  | d, (.unionAll, last) :: before => do
    let left ← codeChain first d before
    let right ← member { d with limit? := none } last
    return limited d.limit? (left.append right)
  | d, (op, last) :: before => do
    let left ← codeChain first ⟨.set, [], false, none⟩ before
    let right ← member ⟨.set, [], false, none⟩ last
    let both := left.combine op right
    return if d.destination == .set then both else limited d.limit? both

/-- The keys of an order and, behind them, all columns that are not among them. -/
def allKeys (width : Nat) (keys : List (Key Bound)) : List (Key Bound) :=
  let isMissing (i : Nat) : Bool := !keys.any (·.place? == some i)
  keys ++ ((List.range width).filter isMissing).map fun i => ⟨.null, false, some i⟩

/-- How many members of a compound query are on the right side when it is split in two. -/
def rightCount (others : List (SetOperator × Block Bound)) : Nat :=
  match others.getLast? with
  | none => 0
  | some (op, _) =>
    let same := (others.reverse.takeWhile (·.1 == op)).length
    if (op == .union || op == .unionAll) && 2 < same then 1 + same / 2 else 1

/-- The order of rows by keys that are places. -/
def placeOrder (keys : List (Key Bound)) (a b : Values) : Ordering :=
  let values (row : Values) : Values := keys.map fun k => row.getD (k.place?.getD 0) .null
  Values.compare (keys.map Key.descending) (values a) (values b)

/-- The blocks of a compound query with an order. -/
def codeOrdered : Nat → List (Key Bound) → Block Bound → List (SetOperator × Block Bound) →
    Coding Run
  | 0, keys, first, _ => member ⟨.stream, keys, true, none⟩ first
  | fuel + 1, keys, first, others => do
    let count := others.length - rightCount others
    match others[count]? with
    | none => member ⟨.stream, keys, true, none⟩ first
    | some (op, middle) =>
      let keys := if op == .unionAll then keys else allKeys first.outputs.length keys
      let left ← codeOrdered fuel keys first (others.take count)
      let right ← codeOrdered fuel keys middle (others.drop (count + 1))
      return left.mergeSorted op (placeOrder keys) right

end Compounds

/-- A query without its window, made ready. -/
def codeBody : Nat → Demand → Retrieval Bound → Coding Run
  | 0, _, _ => do
    Coding.blame Scope.tooDeep
    return ⟨0, fun _ => .ok fun _ => .done⟩
  | fuel + 1, d, r => do
    if r.isCompound then
      let member (d : Demand) (b : Block Bound) : Coding Run :=
        let isSet := d.destination == .set
        let b := if isSet then { b with distinct := false } else b
        let r := (⟨b, [], d.keys, none, none⟩ : Retrieval Bound).merged true (!isSet)
        codeBody fuel { d with keys := r.orderBy } r
      if d.keys.isEmpty then codeChain member r.first d r.others.reverse
      else codeOrdered member r.others.length d.keys r.first r.others
    else codeBlock coder s d r.first

end Code

/-- A query of which only the first row is asked for. -/
def firstRow (r : Retrieval Bound) : Retrieval Bound :=
  let limit : Formula Bound :=
    match r.limit? with
    | none => .literal (.small 1)
    | some e => .binary .ne e (.cast (.literal (.small 0)) "NUMERIC")
  { r with limit? := some limit }

/-- The estimate of a limit that is known and smaller than what is thought anyway. -/
def limitEstimate? (limit? : Option (Formula Bound)) : Option Int := do
  let n ← limit?.bind Formula.integer?
  if 0 < n && Estimate.ofNat n.toNat < someRows then some (Estimate.ofNat n.toNat) else none

/-- Makes queries ready that nest at most so deep. -/
def code : Nat → Coder
  | 0, _, _, _ => do
    Coding.blame Scope.tooDeep
    return ⟨0, fun _ => .done, fun _ => .ok none⟩
  | depth + 1, s, destination, .mk r => do
    let coder := code depth
    let r := if destination == .scalar then firstRow r else r
    let r := r.merged false (destination != .set)
    let limit? ← r.limit?.mapM (Formula.code coder s)
    let offset? ← r.offset?.mapM (Formula.code coder s)
    let demand : Demand := ⟨destination, r.orderBy, false, limitEstimate? r.limit?⟩
    let run ← codeBody coder s maxNesting demand r
    return run.within (Window.ofFormulas limit? offset?)

end Preparation

/-- A query, ready to run. -/
def Bound.prepare (q : Bound) (db : Database) (sql : String) (destination : Destination) :
    Except Error Ready :=
  (Preparation.code maxNesting ⟨sql, db, [], 0⟩ destination q).finish

end RowCheck.Sql
