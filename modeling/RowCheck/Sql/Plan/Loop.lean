import RowCheck.Sql.Plan.Term
import RowCheck.Sql.Plan.Estimate

/-!
# Loops

The ways to go through the rows of one source, with estimates of what they cost. A loop needs the
sources on which its terms depend to be gone through outside of it. Loops that are worse than others
in every respect are not kept.
-/

namespace RowCheck.Sql

/-- A source as the planner sees it. -/
structure Candidate where
  number : Nat
  /-- The table, if it is one. -/
  table? : Option Table
  /-- The estimate of its rows. -/
  rows : Int
  crossed : Bool
  used : List Nat
  /-- Whether it is a query that looks at sources around the block. -/
  isCorrelated : Bool

/-- By what the rows of a source are found. -/
inductive Route where
  /-- By their numbers, or in their order. -/
  | rows
  /-- By an index. -/
  | index (i : Index)
  /-- By an index that is made for the query. -/
  | made
  deriving DecidableEq

/-- How many columns a route has itself. -/
def Route.own : Route → Nat
  | .index i => i.columns.length
  | _ => 0

/-- A term of a plan, with its place. -/
abbrev Placed := Nat × Term

/-- A way to go through the rows of a source. -/
structure Loop where
  source : Nat
  route : Route
  /-- The terms that fix the first columns of the route. -/
  fixed : List Placed
  lower? : Option Placed
  upper? : Option Placed
  /-- Whether an index has all columns that are used. -/
  isCovering : Bool
  /-- Whether there is at most one row. -/
  isSingle : Bool
  /-- Whether a term is about another column that is equal. -/
  isIndirect : Bool
  /-- The sources that have to be outside of it. -/
  needs : List Nat
  setup : Int
  cost : Int
  rows : Int
  /-- What order it may help with. -/
  sortGroup : Nat

namespace Loop

/-- The terms of a loop. -/
def terms (l : Loop) : List Placed := l.fixed ++ l.lower?.toList ++ l.upper?.toList

/-- Whether a loop uses an index of its table. -/
def isIndexed (l : Loop) : Bool :=
  match l.route with
  | .index _ => true
  | _ => false

/-- Whether a loop has a column with a given value. -/
def hasFixed (l : Loop) : Bool := l.fixed.any (·.2.fixes)

/-- Whether a loop is restricted by terms. -/
def isRestricted (l : Loop) : Bool := !l.terms.isEmpty

/-- Whether a loop has only a part of the terms of another one, and costs no more. -/
def isCheaperPart (a b : Loop) : Bool :=
  a.terms.length < b.terms.length && !(a.cost > b.cost && a.rows > b.rows)
    && a.terms.all (fun t => b.terms.any (·.1 == t.1))
    && (!a.isCovering || b.isCovering)

/-- Brings the estimates of a new loop over an index in line with those of other ones. -/
def adjust (loops : List Loop) (l : Loop) : Loop :=
  if !l.isIndexed then l
  else
    (loops.filter fun p => p.source == l.source && p.isIndexed).foldl (fun l p =>
      if isCheaperPart p l then { l with cost := min p.cost l.cost, rows := min (p.rows - 1) l.rows }
      else if isCheaperPart l p then
        { l with cost := max p.cost l.cost, rows := max (p.rows + 1) l.rows }
      else l) l

/-- What a new loop does to the loops that are kept. -/
inductive Rank where
  /-- There is a better one. -/
  | worse
  /-- It takes the place of one. -/
  | better (place : Nat)
  | new
  deriving DecidableEq

/-- Compares a new loop with those from a place on. -/
def rank (l : Loop) : Nat → List Loop → Rank
  | _, [] => .new
  | place, p :: ps =>
    if p.source != l.source || p.sortGroup != l.sortGroup then rank l (place + 1) ps
    else if p.route == .made && l.isIndexed && l.hasFixed && within l.needs p.needs then
      .better place
    else if within p.needs l.needs && p.setup ≤ l.setup && p.cost ≤ l.cost && p.rows ≤ l.rows then
      .worse
    else if within l.needs p.needs && p.cost ≥ l.cost && p.rows ≥ l.rows then .better place
    else rank l (place + 1) ps

/-- Drops the loops that a new loop is better than; at most `count` of them. -/
def dropWorse (l : Loop) : Nat → List Loop → List Loop
  | 0, ps => ps
  | count + 1, ps =>
    match rank l 0 ps with
    | .better place => dropWorse l count (ps.eraseIdx place)
    | _ => ps

/-- Adds a loop to those that are kept. -/
def insert (loops : List Loop) (l : Loop) : List Loop :=
  let l := adjust loops l
  match rank l 0 loops with
  | .worse => loops
  | .new => loops ++ [l]
  | .better place =>
    let rest := loops.drop (place + 1)
    loops.take place ++ l :: dropWorse l rest.length rest

/-- The estimate by which a constant narrows a column that equals it: small numbers are thought to
be frequent. -/
def narrowing (t : Term) : Int :=
  match t.rightSide?.bind Formula.integer? with
  | some i => if -1 ≤ i ∧ i ≤ 1 then 10 else 20
  | none => 20

/-- Fewer rows for the terms on a source that a loop does not use itself. -/
def narrow (terms : List Term) (source : Nat) (all : Int) (l : Loop) : Loop :=
  let isUsed (place : Nat) : Bool :=
    l.terms.any fun (i, t) => i == place || t.parent? == some place
  let open_ := (terms.zipIdx.filter fun (t, place) =>
    !t.isMade && within t.needs (source :: l.needs) && t.needs.contains source && !isUsed place).map
    (·.1)
  let reduce := (open_.filter Term.fixes).foldl (fun r t => max r (narrowing t)) 0
  { l with rows := min (l.rows - open_.length) (all - reduce) }

/-- The estimate of the rows within bounds. -/
def bounded (rows : Int) (lower? upper? : Option Placed) : Int :=
  let bound (rows : Int) : Option Placed → Int
    | some (_, t) => if t.isPresence then rows else rows - 20
    | none => rows
  let both : Int := if lower?.isSome && upper?.isSome then 20 else 0
  let narrowed := max 10 (bound (bound rows lower?) upper? - both)
  min narrowed (rows - lower?.toList.length - upper?.toList.length)

end Loop

/-- An index as the planner sees it, or the rows themselves. -/
structure Probe where
  route : Route
  /-- The columns by which it is sorted. -/
  columns : List (Option Nat)
  /-- How many of them are those of the index itself, without the row number. -/
  own : Nat
  /-- How many of them can be restricted. -/
  depth : Nat
  width : Int
  isCovering : Bool
  /-- Whether its columns never have the same values twice, even with `NULL`. -/
  isStrict : Bool

namespace Candidate

/-- The rows of a source as they are. -/
def rowProbe : Probe := ⟨.rows, [none], 0, 1, 3, false, true⟩

/-- The indexes of a source. -/
def indexProbes (s : Candidate) : List Probe :=
  match s.table? with
  | none => []
  | some t =>
    t.indexes.map fun index =>
      let columns := index.columns.map fun (i, _) => t.slotOf i
      let own := columns.length
      ⟨.index index, columns ++ [none], own, if index.code = .primaryKey then own else own + 1,
        Estimate.indexWidth t index, s.used.all fun i => columns.contains (some i),
        columns.all fun c => c.all fun i => (t.columns[i]?).any TableColumn.notNull⟩

/-- The width of the rows of a source. -/
def width (s : Candidate) : Int := (s.table?.map Estimate.tableWidth).getD 1

/-- The affinity of a column. -/
def affinity? (s : Candidate) (i : Nat) : Option Affinity :=
  (s.table?.bind (·.columns[i]?)).map TableColumn.affinity

/-- Whether a column of a probe is never `NULL`. -/
def isRequired (s : Candidate) : Option Nat → Bool
  | none => true
  | some i => (s.table?.bind (·.columns[i]?)).any TableColumn.notNull

/-- Whether a term lets an index be made on its column, once `ready` sources are known. -/
def canDrive (s : Candidate) (ready : Option (List Nat)) (t : Term) : Bool :=
  match t.left? with
  | some c =>
    c.source == s.number && c.index?.isSome && t.fixes && ready.all (within t.right)
      && t.suits c.affinity?
  | none => false

/-- A loop over all rows of a probe. -/
def baseLoop (s : Candidate) (needs : List Nat) (sortGroup : Nat) (p : Probe) : Loop :=
  ⟨s.number, p.route, [], none, none, p.isCovering, false, false, needs, 0, 0, s.rows, sortGroup⟩

/-- The loops with an index that is made for the query. -/
def madeLoops (s : Candidate) (terms : List Term) (needs : List Nat) (sortGroup : Nat) :
    List Loop :=
  if s.isCorrelated then []
  else
    let log := Estimate.log s.rows
    let setup := log + s.rows + (if s.table?.isSome then 28 else -25)
    terms.zipIdx.filterMap fun (t, place) =>
      if t.right.contains s.number || !s.canDrive none t then none
      else
        some { s.baseLoop (needs ++ t.right).eraseDups sortGroup rowProbe with
          route := .made
          fixed := [(place, t)]
          setup := max 0 setup
          cost := Estimate.add log 43
          rows := 43
          sortGroup }

/-- The estimate of the rows of a loop, one more column of which is fixed. -/
def fixedRows (s : Candidate) (p : Probe) (l : Loop) (t : Term) : Int :=
  let count := l.fixed.length
  l.rows + Estimate.matching s.rows p.own (count + 1) - Estimate.matching s.rows p.own count
    + (if t.restriction? == some .isNull then 10 else 0)

/-- A loop with one more restricted column, or none if that makes no sense. -/
def restrict? (s : Candidate) (p : Probe) (column : Option Nat) (l : Loop)
    (found : Nat × Term × Bool) : Option Loop :=
  let (place, t, indirect) := found
  let absent := t.restriction? == some .isNull || t.isPresence
  if (absent && s.isRequired column) || t.right.contains s.number then none
  else
    let needs := (l.needs ++ t.right).eraseDups
    match t.restriction? with
    | none => none
    | some r =>
      if r.fixes then
        let isLast := l.fixed.length + 1 = p.own
        let single :=
          if isLast then p.isStrict || (p.own = 1 && r == .equal) else p.own ≤ l.fixed.length
        some { l with
          fixed := l.fixed ++ [(place, t)]
          isSingle := l.isSingle || single, isIndirect := l.isIndirect || indirect
          needs, rows := s.fixedRows p l t }
      else if r == .isNull then
        some { l with fixed := l.fixed ++ [(place, t)], needs, rows := s.fixedRows p l t }
      else
        let lower? := if r.isLower then some (place, t) else l.lower?
        let upper? := if r.isUpper then some (place, t) else none
        some { l with lower?, upper?, needs, rows := Loop.bounded l.rows lower? upper? }

/-- The cost of a restricted loop. -/
def cost (s : Candidate) (p : Probe) (rows : Int) : Int :=
  let visit :=
    match p.route with
    | .index _ => rows + 1 + (15 * p.width).tdiv s.width
    | _ => rows + 16
  let found := Estimate.add (Estimate.log s.rows) visit
  match p.route, p.isCovering with
  | .index _, false => Estimate.add found (rows + 16)
  | _, _ => found

/-- Adds the loops that restrict one more column of a probe. -/
def extend (s : Candidate) (terms : List Term) (p : Probe) :
    Nat → Loop → List Loop → List Loop
  | 0, _, loops => loops
  | fuel + 1, l, loops =>
    match p.columns[l.fixed.length]? with
    | none => loops
    | some column =>
      let wanted (r : Restriction) : Bool := if l.lower?.isSome then r.isUpper else true
      let index? := column.map s.affinity?
      (Term.scan terms (s.number, column) wanted index?).foldl (fun loops found =>
        match s.restrict? p column l found with
        | none => loops
        | some next =>
          let priced := { next with cost := s.cost p next.rows }
          let loops := Loop.insert loops (Loop.narrow terms s.number s.rows priced)
          let isRange := next.lower?.isSome || next.upper?.isSome
          let rest := { next with rows := if isRange then l.rows else next.rows }
          if next.upper?.isNone && next.fixed.length < p.depth then
            extend s terms p fuel rest loops
          else loops) loops

/-- Whether an order names a column of a probe, or the row number. -/
def helpsWith (s : Candidate) (order : List (Formula Bound)) (p : Probe) : Bool :=
  order.any fun e =>
    match e.bare.column? with
    | some c =>
      c.source == s.number
        && (c.index?.isNone
          || (match p.route with
            | .index index => c.index?.any fun i => index.columns.any (·.1 == i)
            | _ => false))
    | none => false

/-- Whether a formula needs no column of a source but those of an index. -/
def isCovered (s : Candidate) (index : Index) (e : Formula Bound) : Bool :=
  e.mentionedColumns.all fun c =>
    c.source != s.number || c.index?.all fun i => index.columns.any (·.1 == i)

/-- The cost of going through all rows by an index. -/
def indexScanCost (s : Candidate) (terms : List Term) (p : Probe) (index : Index) : Int :=
  let visit := s.rows + 1 + (15 * p.width).tdiv s.width
  if p.isCovering then visit
  else
    let covered := terms.takeWhile fun t => s.isCovered index t.formula
    let saved : Int := covered.foldl (fun n t => n + if t.fixes then 20 else 1) 0
    Estimate.add visit (s.rows + 16 - saved)

/-- The loop over all rows of a probe, if it makes sense. -/
def fullLoop? (s : Candidate) (terms : List Term) (needs : List Nat) (helps : Bool)
    (isChange : Bool) (sortGroup : Nat) (p : Probe) : Option Loop :=
  let base := s.baseLoop needs sortGroup p
  match p.route with
  | .index index =>
    if helps || (p.isCovering && p.width < s.width && !isChange) then
      some (Loop.narrow terms s.number s.rows
        { base with cost := s.indexScanCost terms p index })
    else none
  | _ =>
    some (Loop.narrow terms s.number s.rows
      { base with cost := s.rows + 16 })

/-- Adds the loops over a source, and tells for which order its last probe may be. `needs` are the
sources that have to stay outside, and `isChange` tells whether rows are changed while the loop
runs. -/
def addLoops (s : Candidate) (terms : List Term) (order : List (Formula Bound)) (needs : List Nat)
    (isChange : Bool) (state : List Loop × Nat) : List Loop × Nat :=
  let loops := (s.madeLoops terms needs state.2).foldl Loop.insert state.1
  (rowProbe :: s.indexProbes).zipIdx.foldl (fun (loops, _) (p, i) =>
    let helps := s.helpsWith order p
    let sortGroup := if helps then i + 1 else 0
    let full? := s.fullLoop? terms needs helps isChange sortGroup p
    let loops := full?.toList.foldl Loop.insert loops
    (s.extend terms p (p.own + 2) (s.baseLoop needs sortGroup p) loops, sortGroup))
    (loops, state.2)

end Candidate

namespace Loop

/-- The loops over all sources of a block. A crossed source needs all sources before it. -/
def ofSources (sources : List Candidate) (terms : List Term) (order : List (Formula Bound))
    (isChange : Bool) : List Loop :=
  let step (state : (List Loop × Nat) × List Nat × List Nat) (s : Candidate) :
      (List Loop × Nat) × List Nat × List Nat :=
    let (loops, prior, needs) := state
    let needs := if s.crossed then (needs ++ prior).eraseDups else []
    (s.addLoops terms order needs isChange loops, prior ++ [s.number], needs)
  (sources.foldl step (([], 0), [], [])).1.1

end Loop

end RowCheck.Sql
