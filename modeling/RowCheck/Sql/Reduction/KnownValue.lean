import RowCheck.Sql.Block

/-!
# Columns of known value

A condition that a column equals a constant lets the column be replaced by the constant in all other
conditions, so that they can be tested earlier. A column whose values are stored as they are is
replaced only where it is a side of a comparison.
-/

namespace RowCheck.Sql

namespace Formula

variable {Q : Type} (change : Formula Q → Formula Q)

mutual

/-- A formula all parts of which are changed, the inner ones first. -/
def transform : Formula Q → Formula Q
  | .literal l => change (.literal l)
  | .oversized written offset => change (.oversized written offset)
  | .column c => change (.column c)
  | .query q correlated affinity? => change (.query q correlated affinity?)
  | .fixed c e => change (.fixed c (transform e))
  | .derived e => change (.derived (transform e))
  | .negate e => change (.negate (transform e))
  | .plus e => change (.plus (transform e))
  | .not e => change (.not (transform e))
  | .nullTest isNull e => change (.nullTest isNull (transform e))
  | .truthTest negated truth e => change (.truthTest negated truth (transform e))
  | .cast e type => change (.cast (transform e) type)
  | .aggregate owner serial name fn distinct args =>
    change (.aggregate owner serial name fn distinct (transformAll args))
  | .call fn args => change (.call fn (transformAll args))
  | .row items => change (.row (transformAll items))
  | .binary op l r => change (.binary op (transform l) (transform r))

/-- Several formulas all parts of which are changed. -/
def transformAll : List (Formula Q) → List (Formula Q)
  | [] => []
  | e :: es => transform e :: transformAll es

end

end Formula

namespace Bound

/-- A formula in which all parts are changed, also in its queries. -/
def transform (change : Formula Bound → Formula Bound) : Nat → Formula Bound → Formula Bound
  | 0, e => e
  | depth + 1, e =>
    let onFormula := transform change depth
    e.transform fun
      | .query q correlated affinity? =>
        .query (queryTransform onFormula depth q) correlated affinity?
      | e => change e
where
  /-- A query all formulas of which are changed, also in its sources. -/
  queryTransform (onFormula : Formula Bound → Formula Bound) : Nat → Bound → Bound
    | 0, q => q
    | depth + 1, .mk r =>
      .mk (Id.run (r.traverse (m := Id) onFormula (queryTransform onFormula depth)))

end Bound

/-- A column that equals a constant by a condition. -/
structure KnownValue where
  column : ColumnRef
  value : Formula Bound
  /-- The place of the condition. -/
  place : Nat

namespace KnownValue

/-- What a condition at a place tells about columns. -/
def ofCondition (place : Nat) : Formula Bound → List KnownValue
  | .binary .eq l r =>
    let known : Formula Bound → Formula Bound → List KnownValue
      | .column c, v =>
        if v.isConstant && v.affinity?.isNone && v.bare.column?.isNone then [⟨c, v, place⟩] else []
      | _, _ => []
    known r l ++ known l r
  | _ => []

/-- What conditions tell about columns; of several conditions on a column the last one counts. -/
def ofConditions (conditions : List (Condition Bound)) : List KnownValue :=
  let found := conditions.zipIdx.reverse.flatMap fun (c, place) => ofCondition place c.formula
  (found.foldl (fun known k =>
    if known.any (·.column.same k.column) then known else k :: known) []).reverse

/-- Whether values of a column are stored as they are. -/
def isPlain (c : ColumnRef) : Bool := c.affinity? == some .blob

/-- A column with its value, if it is known. -/
def fix (known : List KnownValue) (c : ColumnRef) : Formula Bound :=
  match known.find? (·.column.same c) with
  | some k => .fixed c k.value
  | none => .column c

/-- The sides of a comparison with their values. -/
def fixSides (known : List KnownValue) : Formula Bound → Formula Bound
  | .binary op l r =>
    let side : Formula Bound → Formula Bound
      | .column c => if isPlain c then fix known c else .column c
      | e => e
    if op = .eq || op = .lt || op = .le || op = .gt || op = .ge || op = .is then
      .binary op (side l) (if l.affinity? == some .text then r else side r)
    else .binary op l r
  | e => e

/-- A formula with the values of its columns, as far as they are known. -/
def apply (known : List KnownValue) (e : Formula Bound) : Formula Bound :=
  let e := if known.any (isPlain ·.column) then Bound.transform (fixSides known) maxNesting e else e
  Bound.replaceColumns (fun c => if isPlain c then .column c else fix known c) e

/-- How many columns conditions mention, a column counted each time. -/
def columnCount (conditions : List (Condition Bound)) : Nat :=
  conditions.foldl (fun n c => n + c.formula.allColumns.length) 0

/-- Conditions with the values of their columns, until no more of them are known. -/
def spread : Nat → List (Condition Bound) → List (Condition Bound)
  | 0, conditions => conditions
  | fuel + 1, conditions =>
    let known := ofConditions conditions
    if known.isEmpty then conditions
    else
      let next := conditions.zipIdx.map fun (c, place) =>
        if known.any (·.place = place) then c else { c with formula := apply known c.formula }
      if columnCount next = columnCount conditions then conditions else spread fuel next

end KnownValue

/-- A block in whose conditions columns of known value are replaced. -/
def Block.withKnownValues (b : Block Bound) : Block Bound :=
  if b.conditions.length < 2 then b
  else
    let columns := KnownValue.columnCount b.conditions
    { b with conditions := KnownValue.spread (columns + 1) b.conditions }

end RowCheck.Sql
