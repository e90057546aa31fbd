import RowCheck.Sql.Formula
import RowCheck.Sql.Database

/-!
# Bound queries

Queries whose names are resolved. A block selects from its sources the rows that fulfil all its
conditions; a retrieval puts blocks together, orders the rows and takes a window of them. Sources
and blocks have numbers of their own, by which formulas refer to them.
-/

namespace RowCheck.Sql

/-- A column of rows that a query makes. -/
structure RelationColumn where
  label : String
  /-- The declared type of the table column that it is, if it is one. -/
  declared? : Option String
  affinity? : Option Affinity
  deriving DecidableEq

/-- Rows that a query makes. -/
structure Relation where
  columns : List RelationColumn
  rows : List Values
  deriving DecidableEq

/-- A column of the result of a block. -/
structure Output (Q : Type) where
  formula : Formula Q
  label : String
  /-- The name that it has where the block is a source. -/
  innerLabel : String
  /-- Whether the label is a name by which other clauses can refer to the column. -/
  isNamed : Bool
  declared? : Option String

/-- Where the rows of a source come from. -/
inductive Origin (Q : Type) where
  | table (schema : String) (table : Table)
  /-- A query; whether it looks at the sources around it. -/
  | query (q : Q) (correlated : Bool)
  /-- Constant rows. -/
  | rows (rows : List (List (Formula Q)))

/-- A source of rows. -/
structure Source (Q : Type) where
  number : Nat
  origin : Origin Q
  /-- Whether it stays behind the sources before it. -/
  crossed : Bool
  /-- The columns that the statement refers to. -/
  used : List Nat

/-- A condition, and whether it was given where sources are joined. -/
structure Condition (Q : Type) where
  formula : Formula Q
  joined : Bool

/-- A formula by which rows are ordered, and the place of the output that it is, if it is one. -/
structure Key (Q : Type) where
  formula : Formula Q
  descending : Bool
  place? : Option Nat

/-- What a block does with its rows. -/
structure Block (Q : Type) where
  number : Nat
  distinct : Bool
  outputs : List (Output Q)
  /-- Whether there is a call or a query among the items of the result. -/
  complex : Bool
  sources : List (Source Q)
  /-- All of these have to hold. -/
  conditions : List (Condition Q)
  groupBy : List (Key Q)
  /-- All of these have to hold for a group. -/
  having : List (Formula Q)
  isAggregate : Bool

/-- Blocks put together from left to right, an order, and a window of rows. -/
structure Retrieval (Q : Type) where
  first : Block Q
  others : List (SetOperator × Block Q)
  orderBy : List (Key Q)
  limit? : Option (Formula Q)
  offset? : Option (Formula Q)

/-- A bound query. -/
inductive Bound where
  | mk (retrieval : Retrieval Bound)

/-- The retrieval that a query is. -/
def Bound.retrieval : Bound → Retrieval Bound
  | .mk r => r

/-- How deep bound queries can nest. -/
def maxNesting : Nat := maxDepth + 100

namespace Formula

variable {Q : Type}

/-- The conditions that a condition is made of. -/
def conjuncts : Formula Q → List (Formula Q)
  | .binary .and l r => conjuncts l ++ conjuncts r
  | e => [e]

end Formula

namespace Condition

variable {Q : Type}

/-- A condition of a filter. -/
def ofFormula (e : Formula Q) : Condition Q := ⟨e, false⟩

/-- Both lists of conditions. If one of them is nothing but a constant that is never true, and both
come from filters, then that constant is all that is left. -/
def both (as bs : List (Condition Q)) : List (Condition Q) :=
  let isFalse : List (Condition Q) → Bool
    | [⟨e, false⟩] => e.decided? = some false
    | _ => false
  let isFilter : List (Condition Q) → Bool
    | [c] => !c.joined
    | _ => true
  if as.isEmpty then bs
  else if bs.isEmpty then as
  else if (isFalse as && isFilter bs) || (isFalse bs && isFilter as) then
    [ofFormula (.literal (.small 0))]
  else as ++ bs

end Condition

section Traverse

variable {Q R : Type} {m : Type → Type} [Monad m] (onFormula : Formula Q → m (Formula R))
  (onQuery : Q → m R)

/-- A term of an order, the formula of which is replaced. -/
def Key.traverse (k : Key Q) : m (Key R) := do
  return ⟨← onFormula k.formula, k.descending, k.place?⟩

/-- A source, the formulas and the query of which are replaced. -/
def Source.traverse (s : Source Q) : m (Source R) := do
  let origin : Origin R ←
    match s.origin with
    | .table schema t => pure (.table schema t)
    | .query q correlated => do pure (.query (← onQuery q) correlated)
    | .rows rows => do pure (.rows (← rows.mapM (·.mapM onFormula)))
  return ⟨s.number, origin, s.crossed, s.used⟩

/-- A block, all formulas and source queries of which are replaced. -/
def Block.traverse (b : Block Q) : m (Block R) := do
  let outputs ← b.outputs.mapM fun o => do
    return (⟨← onFormula o.formula, o.label, o.innerLabel, o.isNamed, o.declared?⟩ : Output R)
  let conditions ← b.conditions.mapM fun c => do
    return (⟨← onFormula c.formula, c.joined⟩ : Condition R)
  let groupBy ← b.groupBy.mapM (Key.traverse onFormula)
  let having ← b.having.mapM onFormula
  let sources ← b.sources.mapM (Source.traverse onFormula onQuery)
  return ⟨b.number, b.distinct, outputs, b.complex, sources, conditions, groupBy, having,
    b.isAggregate⟩

/-- A retrieval, all formulas and source queries of which are replaced. -/
def Retrieval.traverse (r : Retrieval Q) : m (Retrieval R) := do
  let first ← r.first.traverse onFormula onQuery
  let others ← r.others.mapM fun (op, b) => do return (op, ← b.traverse onFormula onQuery)
  let orderBy ← r.orderBy.mapM (Key.traverse onFormula)
  let limit? ← r.limit?.mapM onFormula
  let offset? ← r.offset?.mapM onFormula
  return ⟨first, others, orderBy, limit?, offset?⟩

end Traverse

namespace Retrieval

variable {Q : Type}

/-- The blocks of a retrieval. -/
def blocks (r : Retrieval Q) : List (Block Q) := r.first :: r.others.map (·.2)

/-- The last block of a retrieval. -/
def last (r : Retrieval Q) : Block Q := (r.others.getLast?.map (·.2)).getD r.first

/-- Whether a retrieval has more than one block. -/
def isCompound (r : Retrieval Q) : Bool := !r.others.isEmpty

end Retrieval

namespace Bound

/-- The affinity of the value of a query: that of the first column of its last block. -/
def affinity? (q : Bound) : Option Affinity :=
  q.retrieval.last.outputs.head?.bind fun o => o.formula.affinity?

/-- How many columns a query has. -/
def width (q : Bound) : Nat := q.retrieval.first.outputs.length

/-- A query in which every formula is replaced, also in the queries inside it: `onColumn` says what
becomes of a column. -/
def traverse {m : Type → Type} [Monad m] (onColumn : ColumnRef → m (Formula Bound)) :
    Nat → Bound → m Bound
  | 0, q => return q
  | depth + 1, .mk r => do
    let onQuery := traverse onColumn depth
    return .mk (← r.traverse (Formula.traverse onColumn onQuery) onQuery)

/-- A formula in which columns are replaced, also in its queries. -/
def replaceColumns (onColumn : ColumnRef → Formula Bound) (e : Formula Bound) : Formula Bound :=
  Id.run (e.traverse (m := Id) onColumn (traverse (m := Id) onColumn maxNesting))

end Bound

/-- The formulas of a block. -/
def Block.formulas {Q : Type} (b : Block Q) : List (Formula Q) :=
  b.outputs.map Output.formula ++ b.conditions.map Condition.formula
    ++ b.groupBy.map Key.formula ++ b.having

namespace Bound

/-- The formulas of a query and of the queries in its sources. -/
def formulas : Nat → Bound → List (Formula Bound)
  | 0, _ => []
  | depth + 1, .mk r =>
    let ofSource (s : Source Bound) : List (Formula Bound) :=
      match s.origin with
      | .table .. => []
      | .query q _ => formulas depth q
      | .rows rows => rows.flatten
    r.blocks.flatMap (fun b => b.formulas ++ b.sources.flatMap ofSource)
      ++ r.orderBy.map Key.formula ++ r.limit?.toList ++ r.offset?.toList

/-- The tables that a query reads, each after the name of its schema. -/
def tables : Nat → Bound → List (String × String)
  | 0, _ => []
  | depth + 1, .mk r =>
    let ofFormula (e : Formula Bound) : List (String × String) := e.queries.flatMap (tables depth)
    let ofSource (s : Source Bound) : List (String × String) :=
      match s.origin with
      | .table schema t => [(schema, t.name)]
      | .query q _ => tables depth q
      | .rows rows => rows.flatten.flatMap ofFormula
    (r.blocks.flatMap fun b => b.sources.flatMap ofSource ++ b.formulas.flatMap ofFormula)
      ++ (r.orderBy.map Key.formula ++ r.limit?.toList ++ r.offset?.toList).flatMap ofFormula

end Bound

namespace Formula

/-- What `here` finds in a formula, in its parts, and in its queries. -/
def collectDeep {α : Type} (here : Formula Bound → List α) : Nat → Formula Bound → List α
  | 0, _ => []
  | depth + 1, e =>
    e.collect fun
      | .query q _ _ => (q.formulas maxNesting).flatMap (collectDeep here depth)
      | e => here e

/-- How many values a formula has. -/
def width : Formula Bound → Nat
  | .query q _ _ => q.width
  | .row items => items.length
  | _ => 1

/-- The columns of a formula and of its queries. -/
def allColumns (e : Formula Bound) : List ColumnRef :=
  e.collectDeep (fun
    | .column c => [c]
    | _ => []) maxNesting

/-- The columns of a formula without those of its queries, also those that are fixed. -/
def mentionedColumns (e : Formula Bound) : List ColumnRef :=
  e.collect fun
    | .column c | .fixed c _ => [c]
    | _ => []

/-- The aggregates in a formula and in its queries that are those of a block. -/
def aggregatesOf (owner : Nat) (e : Formula Bound) : List (Formula Bound) :=
  e.collectDeep (fun
    | .aggregate n serial name fn distinct args =>
      if n = owner then [.aggregate n serial name fn distinct args] else []
    | _ => []) maxNesting

end Formula

end RowCheck.Sql
