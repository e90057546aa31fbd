import RowCheck.Sql.Block

/-!
# Merging nested queries

A query in the place of a source is merged into the block around it where that changes nothing but
the order of rows: its sources take its place, its conditions are added, and its outputs stand for
its columns. A query of several blocks is merged into one copy of the block for each of them.
-/

namespace RowCheck.Sql

/-- What an output of a nested query becomes where its column is named. -/
def Formula.standing : Formula Bound → Formula Bound
  | .column c => .column c
  | .fixed c e => .fixed c e
  | .derived e => .derived e
  | .literal l =>
    if l.isTruth then .derived (.literal (.small (if l.decided? = some true then 1 else 0)))
    else .derived (.literal l)
  | e => .derived e

/-- A column of a source, replaced by the output that stands for it. -/
def Output.column (number : Nat) (outputs : List (Output Bound)) (c : ColumnRef) : Formula Bound :=
  if c.source = number then
    match c.index?.bind (outputs[·]?) with
    | some o => o.formula.standing
    | none => .column c
  else .column c

namespace Block

/-- The formulas of a block, and those of the queries that are its sources. -/
def allFormulas (b : Block Bound) : List (Formula Bound) :=
  b.formulas ++ b.sources.flatMap fun s =>
    match s.origin with
    | .table .. => []
    | .query q _ => q.formulas maxNesting
    | .rows rows => rows.flatten

/-- The columns of a source to which formulas refer. -/
def usedColumns (number : Nat) (formulas : List (Formula Bound)) : List Nat :=
  ((formulas.flatMap Formula.allColumns).filterMap fun c =>
    if c.source = number then c.index? else none).eraseDups

/-- A block in which the outputs of a query stand for the columns of a source. -/
def substitute (number : Nat) (outputs : List (Output Bound)) (b : Block Bound) : Block Bound :=
  let column := Output.column number outputs
  Id.run (b.traverse (m := Id) (Bound.replaceColumns column)
    (Bound.traverse (m := Id) column maxNesting))

/-- A block in which the place of one of its sources is taken by the sources of another block. -/
def merge (b : Block Bound) (place : Nat) (s : Source Bound) (sub : Block Bound)
    (crossed : Bool) (orderBy : List (Key Bound)) : Block Bound :=
  let moved := sub.sources.zipIdx.map fun (t, i) => if i = 0 then { t with crossed } else t
  let merged := { b with
    sources := b.sources.take place ++ moved ++ b.sources.drop (place + 1)
    conditions := sub.conditions ++ b.conditions }
  let merged := merged.substitute s.number sub.outputs
  let formulas := merged.allFormulas ++ orderBy.map Key.formula
  let isMoved (t : Source Bound) : Bool := moved.any (·.number == t.number)
  { merged with
    sources := merged.sources.map fun t =>
      if isMoved t then { t with used := usedColumns t.number formulas } else t }

end Block

namespace Retrieval

/-- Whether the columns of the blocks of a query have different affinities. A column without one is
told from other formulas without one. -/
def hasMixedAffinities (r : Retrieval Bound) : Bool :=
  let affinities (b : Block Bound) : List (Option Affinity × Bool) := b.outputs.map fun o =>
    (o.formula.affinity?, o.formula.affinity?.isNone && o.formula.bare.column?.isSome)
  r.others.any fun (_, b) => affinities b != affinities r.first

/-- Whether a query that is a source of a block can be merged into it. `within` tells whether the
block is one of several. -/
def canMerge (r : Retrieval Bound) (within : Bool) (sub : Retrieval Bound) : Bool :=
  let b := r.first
  let plain (m : Block Bound) : Bool := !m.distinct && !m.isAggregate && !m.sources.isEmpty
  let refused :=
    (sub.limit?.isSome &&
      (r.limit?.isSome || sub.offset?.isSome || within || b.sources.length > 1 || b.isAggregate
        || !b.conditions.isEmpty || b.distinct))
      || sub.last.sources.isEmpty || sub.last.distinct
      || (!sub.orderBy.isEmpty && (!r.orderBy.isEmpty || b.isAggregate))
  let compoundRefused :=
    sub.isCompound &&
      (!sub.orderBy.isEmpty || b.isAggregate || b.distinct || !sub.blocks.all plain
        || sub.others.any (·.1 != .unionAll) || r.orderBy.any (·.place?.isNone)
        || sub.hasMixedAffinities)
  !refused && !compoundRefused

/-- A query with a single block, into which a query that is one of its sources is merged. `ordered`
tells whether its order counts. -/
def mergeAt (r : Retrieval Bound) (ordered : Bool) (place : Nat) (s : Source Bound)
    (sub : Retrieval Bound) : Retrieval Bound :=
  let moved := if ordered then sub.orderBy.map fun k => { k with place? := none } else []
  let column := Output.column s.number sub.last.outputs
  let own := r.orderBy.map fun k => { k with formula := Bound.replaceColumns column k.formula }
  let orderBy := if moved.isEmpty then own else moved
  let count := sub.blocks.length
  let merged := sub.blocks.zipIdx.map fun (m, i) =>
    r.first.merge place s m (s.crossed && i + 1 = count) orderBy
  match merged with
  | [] => r
  | first :: others =>
    ⟨first, others.map (.unionAll, ·), orderBy, sub.limit? <|> r.limit?, r.offset?⟩

/-- Whether the order of a nested query counts only if the query stays what it is: it is the first
source, is gone through row by row, and the result of the block is not simple. -/
def keepsOrder (r : Retrieval Bound) (place : Nat) (sub : Retrieval Bound) : Bool :=
  !sub.orderBy.isEmpty && place = 0 && r.first.complex
    && (match r.first.sources with
      | [_] => true
      | _ :: t :: _ => t.crossed
      | [] => false)

/-- Looks for the first source that can be merged. The orders of nested queries are dropped on the
way where they do not count. -/
def mergeFirst (within ordered : Bool) (r : Retrieval Bound) : Nat → Nat → Retrieval Bound × Bool
  | 0, _ => (r, false)
  | count + 1, place =>
    match r.first.sources[place]? with
    | some s =>
      match s.origin with
      | .query (.mk sub) correlated =>
        if sub.last.isAggregate then mergeFirst within ordered r count (place + 1)
        else
          let idle := (!r.orderBy.isEmpty || r.first.sources.length > 1) && sub.limit?.isNone
          let sub := if idle then { sub with orderBy := [] } else sub
          let s := { s with origin := .query (.mk sub) correlated }
          let kept := { r with first := { r.first with sources := r.first.sources.set place s } }
          if !r.keepsOrder place sub && r.canMerge within sub then
            (kept.mergeAt ordered place s sub, true)
          else mergeFirst within ordered kept count (place + 1)
      | _ => mergeFirst within ordered r count (place + 1)
    | none => (r, false)

end Retrieval

/-- How many queries are sources, at any depth. -/
def Bound.sourceQueries : Nat → Bound → Nat
  | 0, _ => 0
  | depth + 1, .mk r =>
    ((r.blocks.flatMap Block.sources).map fun s =>
      match s.origin with
      | .query q _ => 1 + sourceQueries depth q
      | _ => 0).foldl (· + ·) 0

namespace Retrieval

/-- Merges sources until no more of them can be merged, or there are several blocks. -/
def mergeUpTo (within ordered : Bool) : Nat → Retrieval Bound → Retrieval Bound
  | 0, r => r
  | fuel + 1, r =>
    if r.isCompound then r
    else
      match r.mergeFirst within ordered r.first.sources.length 0 with
      | (r, true) => mergeUpTo within ordered fuel r
      | (r, false) => r

/-- Merges the sources of a query that can be merged. `within` tells whether the query is one of
several blocks, and `ordered` whether the order of its rows counts. -/
def merged (r : Retrieval Bound) (within ordered : Bool) : Retrieval Bound :=
  r.mergeUpTo within ordered ((Bound.mk r).sourceQueries maxNesting + 1)

end Retrieval

end RowCheck.Sql
