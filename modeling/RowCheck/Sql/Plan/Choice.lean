import RowCheck.Sql.Plan.Order

/-!
# Choosing a plan

The order in which the sources of a block are nested, and the loop over each of them. Plans are made
longer loop by loop; of each length only the cheapest ones are kept. What a plan costs includes what
it takes to sort its rows. The search is done twice: first without the order, to estimate the rows.
If these are thought to be just short of one, the order does not count in the second search either.
-/

namespace RowCheck.Sql

/-- What a block asks of its plan. -/
structure Aim where
  /-- The order in which rows are wanted. -/
  order : List OrderKey
  use : OrderUse
  /-- The formulas whose values should be distinct, if that is asked. -/
  distinct? : Option (List (Formula Bound))
  /-- Whether the order of the groups counts. -/
  sortsGroups : Bool
  /-- Whether only the first row of the order is looked at. -/
  onlyFirst : Bool
  /-- The estimate of a limit that is known. -/
  limit? : Option Int
  /-- How many outputs there are. -/
  width : Nat
  /-- The estimate of how often the block is run. -/
  repeated : Int
  /-- Whether rows are changed on the way. -/
  isChange : Bool

/-- How much of distinctness a plan gives by itself. -/
inductive Distinctness where
  | unknown
  /-- No two rows are equal. -/
  | unique
  /-- Equal rows are side by side. -/
  | ordered
  deriving DecidableEq

/-- Nested loops while they are searched for. -/
structure Path where
  loops : List Loop
  rows : Int
  cost : Int
  /-- The cost without sorting. -/
  unsorted : Int
  /-- How much of the order is there, if that is decided. -/
  ordered? : Option Nat
  /-- The loops that run backwards. -/
  reversed : List Nat

/-- The loops of a block, from the outermost to the innermost one. -/
structure Plan where
  loops : List Loop
  /-- The places of the loops that run backwards. -/
  reversed : List Nat
  rows : Int
  /-- How many of the first keys of the order are satisfied. -/
  sorted : Nat
  distinct : Distinctness
  /-- Whether the groups come in their order. -/
  hasSortedGroups : Bool
  /-- Whether the innermost loop gives the order within each row of the outer ones. -/
  isSortedInside : Bool

namespace Path

/-- The sources of a path. -/
def sources (p : Path) : List Nat := p.loops.map Loop.source

/-- Whether two paths have the same sources. -/
def covers (a b : Path) : Bool := within a.sources b.sources && within b.sources a.sources

/-- The estimate of what it takes to sort, when the first keys are in order. -/
def sortingCost (aim : Aim) (rows : Int) (sorted : Nat) : Int :=
  let keys := aim.order.length
  let cost := rows + Estimate.ofNat ((aim.width + 59) / 30)
  let cost := if sorted = 0 then cost else cost + Estimate.ofNat ((keys - sorted) * 100 / keys) - 66
  match aim.limit? with
  | some limit =>
    cost + 10 + (if sorted = 0 then 0 else 6) + Estimate.log (min limit rows)
  | none =>
    let rows := if aim.distinct?.isSome && 10 < rows then rows - 10 else rows
    cost + Estimate.log rows

/-- The greatest estimate of repetitions that counts. -/
def maxRepeated : Int := 48

/-- The path without loops. -/
def start (aim : Aim) (hasSources sorts : Bool) : Path :=
  let ordered? :=
    if !sorts then some 0 else if hasSources then none else some aim.order.length
  ⟨[], min aim.repeated maxRepeated, 0, 0, ordered?, []⟩

/-- A path with one more loop. `sorts?` is the estimate of the rows to be sorted, if that counts. -/
def extend (sources : List Candidate) (terms : List Term) (aim : Aim) (sorts? : Option Int)
    (p : Path) (l : Loop) : Path :=
  let run := l.cost + p.rows
  let run := if l.setup = 0 then run else Estimate.add l.setup run
  let unsorted := Estimate.add run p.unsorted
  let (ordered?, reversed) :=
    match p.ordered? with
    | some n => (some n, p.reversed)
    | none => satisfied sources terms aim.order aim.use p.loops (some l)
  let (cost, unsorted) : Int × Int :=
    match sorts?, ordered? with
    | some rows, some n =>
      if n < aim.order.length then
        (Estimate.add unsorted (sortingCost aim rows n) + 3, unsorted)
      else (unsorted, unsorted - 2)
    | _, _ => (unsorted, unsorted - 2)
  ⟨p.loops ++ [l], p.rows + l.rows, cost, unsorted, ordered?, reversed⟩

/-- The place of the path that gives way when there are too many, with its costs. -/
def worst (paths : List Path) : Nat × Int × Int :=
  match paths with
  | [] => (0, 0, 0)
  | p :: ps =>
    ps.zipIdx.foldl (fun (place, cost, unsorted) (q, i) =>
      if cost < q.cost || (q.cost == cost && unsorted < q.unsorted) then
        (i + 1, q.cost, q.unsorted)
      else (place, cost, unsorted)) (0, p.cost, p.rows)

/-- Keeps a path if it is good enough; at most `most` paths are kept. -/
def keep (most : Nat) (paths : List Path) (p : Path) : List Path :=
  match paths.findIdx? fun q => q.covers p && q.ordered?.isSome == p.ordered?.isSome with
  | some i =>
    let isBetter (q : Path) : Bool :=
      q.cost < p.cost
        || (q.cost == p.cost
          && (q.rows < p.rows || (q.rows == p.rows && q.unsorted ≤ p.unsorted)))
    if paths[i]?.any isBetter then paths else paths.set i p
  | none =>
    if paths.length < most then paths ++ [p]
    else
      let (i, cost, unsorted) := worst paths
      if cost < p.cost || (p.cost == cost && unsorted ≤ p.unsorted) then paths else paths.set i p

/-- Whether a loop can come next. A loop that makes an index has to run more than once. -/
def admits (p : Path) (l : Loop) : Bool :=
  within l.needs p.sources && !p.sources.contains l.source && (l.route != .made || 3 ≤ p.rows)

/-- The paths with one more loop. -/
def lengthen (sources : List Candidate) (terms : List Term) (aim : Aim) (sorts? : Option Int)
    (loops : List Loop) (most : Nat) (paths : List Path) : List Path :=
  paths.foldl (fun kept p =>
    loops.foldl (fun kept l =>
      if p.admits l then keep most kept (p.extend sources terms aim sorts? l) else kept) kept) []

/-- The cheapest path through all sources. -/
def search (sources : List Candidate) (terms : List Term) (aim : Aim) (sorts? : Option Int)
    (loops : List Loop) : Option Path :=
  let most := if sources.length ≤ 1 then 1 else if sources.length = 2 then 5 else 10
  let first := start aim (!sources.isEmpty) (sorts?.isSome && !aim.order.isEmpty)
  let found := sources.foldl (fun paths _ => lengthen sources terms aim sorts? loops most paths)
    [first]
  match found with
  | [] => none
  | p :: ps => some (ps.foldl (fun best q => if best.cost > q.cost then q else best) p)

end Path

namespace Plan

/-- The loops among which the second search chooses: over the sources at the front of the first path
whose rows are found by values, there are only loops that are restricted. -/
def remaining (first : Path) (loops : List Loop) : List Loop :=
  let isFound (l : Loop) : Bool := !l.fixed.isEmpty && l.route != .made
  let front := (first.loops.takeWhile isFound).map Loop.source
  loops.filter fun l => !front.contains l.source || l.isRestricted

/-- The plan that a path is. -/
def ofPath (sources : List Candidate) (terms : List Term) (aim : Aim)
    (results? : Option (List OrderKey)) (p : Path) : Plan :=
  let count := aim.order.length
  let outer := p.loops.dropLast
  let last? := p.loops.getLast?
  let all := p.ordered? == some count
  let side (keys : List OrderKey) (use : OrderUse) : Option Nat × List Nat :=
    satisfied sources terms keys use outer last?
  let isOrdered : Bool :=
    match results?, aim.use with
    | some _, .distinct => all
    | some keys, _ => (side keys .distinct).1 == some keys.length
    | none, _ => aim.use == .distinct && all && count != 0
  let sorted := p.ordered?.getD 0
  let inner := side aim.order .innermost
  let isSortedInside :=
    aim.use != .distinct && count != 0
      && (if sorted = 0 then last?.any (!·.isSingle) && inner.1 == some count
        else sorted = 1 && aim.onlyFirst)
  let groups := side aim.order .sorting
  let hasSortedGroups := aim.sortsGroups && count != 0 && all && groups.1 == some count
  let reversed :=
    if hasSortedGroups then groups.2
    else if aim.use == .distinct then []
    else if sorted = 0 && isSortedInside then inner.2
    else p.reversed
  ⟨p.loops, if count = 0 then [] else reversed, p.rows, sorted,
    if isOrdered then .ordered else .unknown, hasSortedGroups, isSortedInside⟩

/-- The greatest number of columns of an index by which a single row is found directly. -/
def maxDirect : Nat := 3

/-- The loop of the only source of a block, if at most one row is found by values that are known. -/
def direct? (s : Candidate) (terms : List Term) : Option Loop :=
  let known (wanted : Restriction → Bool) (column : Option Nat) : Option (Nat × Term × Bool) :=
    (Term.scan terms (s.number, column) wanted (column.map s.affinity?)).find? fun (_, t, _) =>
      t.right.isEmpty
  let loop (p : Probe) (cost : Int) (found : List (Nat × Term × Bool)) : Loop :=
    { s.baseLoop [] 0 p with
      fixed := found.map fun (i, t, _) => (i, t), isSingle := true
      isIndirect := found.any (·.2.2), cost, rows := 1 }
  let byNumber := (known Restriction.fixes none).map fun found => loop Candidate.rowProbe 33 [found]
  let byIndex := s.indexProbes.findSome? fun p =>
    let wanted (r : Restriction) : Bool := r == .equal || (r == .is && p.isStrict)
    if maxDirect < p.own then none
    else ((p.columns.take p.own).mapM (known wanted)).map (loop p 39)
  byNumber <|> byIndex

/-- Whether the outputs of a block are distinct in any case: a row number is among them, or a column
that is never the same or `NULL`. -/
def areDistinct (sources : List Candidate) (terms : List Term) (results : List (Formula Bound)) :
    Bool :=
  match sources with
  | [s] =>
    let has (column : Option Nat) : Bool :=
      results.any fun e => e.bare.column?.any (·.place == (s.number, column))
    let isKnown (column : Option Nat) : Bool :=
      (Term.find? terms (s.number, column) [] (· == .equal) (column.map s.affinity?)).isSome
    has none || s.indexProbes.any fun p =>
      (p.columns.take p.own).all fun c => isKnown c || (has c && s.isRequired c)
  | _ => false

/-- The plan of a block. -/
def make (sources : List Candidate) (terms : List Term) (aim : Aim) : Plan :=
  let aim := if maxKeys < aim.order.length then { aim with order := [], distinct? := none } else aim
  let isUnique := aim.distinct?.any (areDistinct sources terms)
  let results := (aim.distinct?.getD []).map fun e => (⟨e, false, false⟩ : OrderKey)
  let aim :=
    if aim.distinct?.isSome && !isUnique && aim.order.isEmpty then
      { aim with order := results, use := .distinct }
    else aim
  let narrowed (p : Plan) : Plan :=
    { p with
      rows := if aim.distinct?.isSome then p.rows - 30 else p.rows
      distinct := if isUnique then .unique else p.distinct }
  let results? := if aim.distinct?.isSome && !isUnique then some results else none
  let chosen : Plan :=
    let loops := Loop.ofSources sources terms (aim.order.map OrderKey.formula) aim.isChange
    let empty : Path := ⟨[], 0, 0, 0, some 0, []⟩
    let first := (Path.search sources terms aim none loops).getD empty
    if aim.order.isEmpty then narrowed (ofPath sources terms aim none first)
    else
      let sorts? := if first.rows = -1 then none else some (first.rows + 1)
      let second := Path.search sources terms aim sorts? (remaining first loops)
      narrowed (ofPath sources terms aim results? (second.getD first))
  match sources with
  | [s] =>
    match direct? s terms with
    | some l =>
      ⟨[l], [], 1, aim.order.length, if aim.distinct?.isSome then .unique else .unknown, false,
        false⟩
    | none => chosen
  | _ => chosen

end Plan

end RowCheck.Sql
