import RowCheck.Sql.Formula
import RowCheck.Sql.Database
import RowCheck.Sql.Rows

/-!
# Values of formulas

The value of a formula for the rows at which the sources stand. A condition is told from left to
right and only as far as needed, which matters where one of its parts would fail.
-/

namespace RowCheck.Sql

/-- Where the sources of a statement stand. -/
structure Env where
  database : Database
  /-- The row of each source. -/
  rows : List (Nat × StoredRow)
  /-- The results of aggregates, by their numbers. -/
  results : List (Nat × Value)

namespace Env

/-- The sources before the first row. -/
def start (db : Database) : Env := ⟨db, [], []⟩

/-- A source stands at a row. -/
def move (env : Env) (source : Nat) (row : StoredRow) : Env :=
  { env with rows := (source, row) :: env.rows }

/-- The value of a column; `NULL` if its source stands at no row. A column of floats has no
integers, also where other values have come into it. -/
def column (env : Env) (c : ColumnRef) : Value :=
  match env.rows.lookup c.source with
  | none => .null
  | some row =>
    match c.index? with
    | none => .int (.ofInt row.number)
    | some i =>
      match row.values.getD i .null, c.affinity? with
      | .int n, some .real => .real (.ofInt n.toInt)
      | v, _ => v

end Env

/-- A query that is ready to run. -/
structure Ready where
  /-- The estimate of its rows. -/
  estimate : Int
  rows : Env → Rows Values
  /-- The first row, where no more is asked for. -/
  first : Env → Except Error (Option Values)

namespace Ready

/-- A query that gives the same first row each time. -/
def once (q : Ready) (db : Database) : Ready :=
  let row := Thunk.mk fun _ => q.first (.start db)
  { q with first := fun _ => row.get }

/-- The value of a query; `NULL` without a row. -/
def value (q : Ready) (env : Env) : Except Error Value := do
  return ((← q.first env).bind List.head?).getD .null

end Ready

namespace Formula

/-- What a condition is known to be as it is written. -/
def settled? {Q : Type} : Formula Q → Option Bool
  | .binary .and l r =>
    let left := settled? l
    let right := settled? r
    if left == some true || right == some false then right
    else if right == some true || left == some false then left
    else none
  | .binary .or l r =>
    let left := settled? l
    let right := settled? r
    if left == some true || right == some false then left
    else if right == some true || left == some false then right
    else none
  | e => e.decided?

mutual

/-- The value of a formula. -/
def eval (env : Env) : Formula Ready → Except Error Value
  | .literal l => .ok l.value
  | .oversized _ _ => .ok .null
  | .column c => .ok (env.column c)
  | .fixed c e => do
    let v ← eval env e
    return match c.affinity? with
      | some affinity => v.store affinity
      | none => v
  | .derived e => eval env e
  | .aggregate _ serial _ _ _ _ => .ok ((env.results.lookup serial).getD .null)
  | .negate e => do
    let v ← eval env e
    match e with
    | .literal l => return l.minus?.getD v.negate
    | _ => return v.negate
  | .plus e => eval env e
  | .not e => do
    let v ← eval env e
    return Value.ofTruth (v.truth?.map (!·))
  | .nullTest isNull e => do
    let v ← eval env e
    return .ofBool ((v == .null) == isNull)
  | .truthTest negated truth e => do
    let v ← eval env e
    return .ofBool ((v.truth? == some truth) != negated)
  | .binary op l r => do
    let a ← eval env l
    let b ← eval env r
    return op.apply (operatorAffinity op l r) a b
  | .cast e type => do
    let v ← eval env e
    return v.cast (.ofDeclared type.toList)
  | .call fn args => do
    let vs ← evalAll env args
    fn.apply vs
  | .row _ => .ok .null
  | .query q _ _ => q.value env

/-- The values of several formulas. -/
def evalAll (env : Env) : List (Formula Ready) → Except Error Values
  | [] => .ok []
  | e :: es => do
    let v ← eval env e
    return v :: (← evalAll env es)

end

mutual

/-- Whether a condition does not hold. `unknown` tells whether `NULL` counts as not holding. -/
def refuted (env : Env) (unknown : Bool) : Formula Ready → Except Error Bool
  | .binary .and l r => do
    let left := l.settled?
    let right := r.settled?
    if left == some true || right == some false then refuted env unknown r
    else if right == some true || left == some false then refuted env unknown l
    else if ← refuted env unknown l then return true
    else refuted env unknown r
  | .binary .or l r => do
    let left := l.settled?
    let right := r.settled?
    if left == some true || right == some false then refuted env unknown l
    else if right == some true || left == some false then refuted env unknown r
    else if ← asserted env (!unknown) l then return false
    else refuted env unknown r
  | .not e => asserted env unknown e
  | .truthTest negated truth e =>
    if truth != negated then refuted env (!negated) e else asserted env (!negated) e
  | e => do
    match e.decided? with
    | some b => return !b
    | none =>
      let v ← eval env e
      return match v.truth? with
        | some b => !b
        | none => unknown

/-- Whether a condition holds. `unknown` tells whether `NULL` counts as holding. -/
def asserted (env : Env) (unknown : Bool) : Formula Ready → Except Error Bool
  | .binary .and l r => do
    let left := l.settled?
    let right := r.settled?
    if left == some true || right == some false then asserted env unknown r
    else if right == some true || left == some false then asserted env unknown l
    else if ← refuted env (!unknown) l then return false
    else asserted env unknown r
  | .binary .or l r => do
    let left := l.settled?
    let right := r.settled?
    if left == some true || right == some false then asserted env unknown l
    else if right == some true || left == some false then asserted env unknown r
    else if ← asserted env unknown l then return true
    else asserted env unknown r
  | .not e => refuted env unknown e
  | .truthTest negated truth e =>
    if truth != negated then asserted env negated e else refuted env negated e
  | e => do
    match e.decided? with
    | some b => return b
    | none =>
      let v ← eval env e
      return match v.truth? with
        | some b => b
        | none => unknown

end

end Formula

end RowCheck.Sql
