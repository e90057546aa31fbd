import RowCheck.Sql.Reduction.Merging

/-!
# Narrowing nested queries

A query that stays a source of its own is narrowed by what the block around it asks for: conditions
on its columns alone are tested in it too, and columns that nobody looks at are not computed.
-/

namespace RowCheck.Sql

namespace Formula

/-- Whether a formula can be told by the row of a source alone. `queries` tells whether it may have
queries that look at nothing around them. -/
def isOfSource (number : Nat) (queries : Bool) (e : Formula Bound) : Bool :=
  !e.hasPart fun
    | .column c => c.source != number
    | .query _ correlated _ => correlated || !queries
    | .aggregate .. => true
    | _ => false

end Formula

namespace Retrieval

/-- Tests a condition on the rows of a query in each of its blocks. -/
def push (number : Nat) (condition : Formula Bound) (r : Retrieval Bound) : Retrieval Bound :=
  let pushed (b : Block Bound) : Block Bound :=
    let e := Bound.replaceColumns (Output.column number b.outputs) condition
    if b.isAggregate then
      let having := b.having.map Condition.ofFormula
      { b with having := (Condition.both having [.ofFormula e]).map Condition.formula }
    else { b with conditions := Condition.both b.conditions [.ofFormula e] }
  { r with first := pushed r.first, others := r.others.map fun (op, b) => (op, pushed b) }

/-- Tests the conditions of the block around a query in the query, as far as they are about its rows
alone. -/
def pushAll (number : Nat) (conditions : List (Condition Bound)) (r : Retrieval Bound) :
    Retrieval Bound :=
  if r.limit?.isSome then r
  else
    conditions.reverse.foldl (fun r c =>
      if c.formula.isOfSource number true then r.push number c.formula else r) r

/-- The greatest place of a column that is told from others. -/
def lastPlace : Nat := 63

/-- Leaves out the columns that are neither used nor part of the order. -/
def dropUnused (used : List Nat) (r : Retrieval Bound) : Retrieval Bound :=
  let isPlain (b : Block Bound) : Bool := !b.distinct && !b.isAggregate
  if r.blocks.all isPlain && r.others.all (·.1 == .unionAll) then
    let kept := (used ++ r.orderBy.filterMap Key.place?).map (min lastPlace)
    let drop (b : Block Bound) : Block Bound :=
      { b with
        outputs := b.outputs.zipIdx.map fun (o, i) =>
          if kept.contains (min i lastPlace) then o else { o with formula := .null } }
    { r with first := drop r.first, others := r.others.map fun (op, b) => (op, drop b) }
  else r

end Retrieval

/-- A source that is narrowed by the conditions of its block. -/
def Source.narrow (s : Source Bound) (conditions : List (Condition Bound)) : Source Bound :=
  match s.origin with
  | .query (.mk r) correlated =>
    let r := r.pushAll s.number conditions
    { s with origin := .query (.mk (if correlated then r else r.dropUnused s.used)) correlated }
  | _ => s

end RowCheck.Sql
