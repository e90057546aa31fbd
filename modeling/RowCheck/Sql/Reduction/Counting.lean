import RowCheck.Sql.Block

/-!
# Simpler aggregates

The rows of a query of several blocks are counted block by block, and conditions on the keys of
groups are tested on rows before there are groups.
-/

namespace RowCheck.Sql

namespace Formula

variable {Q : Type} (terms : List (Formula Q))

mutual

/-- Whether a formula has the same value for all rows that agree in some terms, as its form tells.
-/
def isFixedBy : Formula Q → Bool
  | .literal _ | .oversized _ _ | .fixed _ _ => true
  | .column c => terms.any (same (.column c))
  | .aggregate owner serial name fn distinct args =>
    terms.any (same (.aggregate owner serial name fn distinct args))
  | .query _ _ _ => false
  | .derived e => isFixedBy e
  | .negate e => terms.any (same (.negate e)) || isFixedBy e
  | .plus e => terms.any (same (.plus e)) || isFixedBy e
  | .not e => terms.any (same (.not e)) || isFixedBy e
  | .nullTest isNull e => terms.any (same (.nullTest isNull e)) || isFixedBy e
  | .truthTest negated truth e => terms.any (same (.truthTest negated truth e)) || isFixedBy e
  | .binary op l r => terms.any (same (.binary op l r)) || (isFixedBy l && isFixedBy r)
  | .cast e type => terms.any (same (.cast e type)) || isFixedBy e
  | .call fn args => terms.any (same (.call fn args)) || areFixedBy args
  | .row items => terms.any (same (.row items)) || areFixedBy items

/-- Whether several formulas have the same values for all rows that agree in some terms. -/
def areFixedBy : List (Formula Q) → Bool
  | [] => true
  | e :: es => isFixedBy e && areFixedBy es

end

end Formula

namespace Block

/-- A block whose conditions on groups are tested on rows where they are about the keys alone. -/
def withEarlyConditions (b : Block Bound) : Block Bound :=
  let keys := b.groupBy.map Key.formula
  b.having.foldl (fun b e =>
    if e.isFixedBy keys && e.decided? != some false then
      { b with conditions := Condition.both b.conditions [.ofFormula e] }
    else { b with having := b.having ++ [e] }) { b with having := [] }

/-- The result of a block that does nothing but count all of its rows. -/
def count? (b : Block Bound) : Option (Output Bound) :=
  match b.outputs with
  | [o] =>
    match o.formula with
    | .aggregate owner _ _ .countRows _ _ =>
      if owner = b.number && b.isAggregate && b.conditions.isEmpty && b.having.isEmpty
          && b.groupBy.isEmpty then some o
      else none
    | _ => none
  | _ => none

/-- The number of rows of a block, as a query. -/
def counted (o : Output Bound) (b : Block Bound) : Formula Bound :=
  let formula : Formula Bound :=
    match o.formula with
    | .aggregate _ serial name fn distinct args => .aggregate b.number serial name fn distinct args
    | e => e
  .query (.mk ⟨{ b with outputs := [{ o with formula }], isAggregate := true }, [], [], none, none⟩)
    false none

/-- A block that counts the rows of several blocks: it adds up the numbers of their rows. -/
def withCounts (b : Block Bound) : Block Bound :=
  match b.count?, b.sources with
  | some o, [s] =>
    match s.origin with
    | .query (.mk sub) _ =>
      let isPlain (m : Block Bound) : Bool := m.conditions.isEmpty && !m.isAggregate
      if sub.isCompound && sub.others.all (·.1 == .unionAll) && sub.limit?.isNone
          && sub.blocks.all isPlain then
        let last := sub.last.counted o
        let sum := (sub.blocks.dropLast.reverse.map (counted o)).foldl
          (fun sum e => .binary .add e sum) last
        { b with outputs := [{ o with formula := sum }], sources := [], isAggregate := false }
      else b
    | _ => b
  | _, _ => b

end Block

end RowCheck.Sql
