import RowCheck.Sql.Evaluate

/-!
# Aggregates and groups

The results of aggregates over the rows of a group. What else is asked of a group is told for one of
its rows: the first one, or the last one that brought a new greatest or least value.
-/

namespace RowCheck.Sql

/-- An aggregate that is ready to run, under the numbers by which formulas refer to it. -/
structure Accumulator where
  serials : List Nat
  fn : AggregateFunction
  distinct : Bool
  args : List (Formula Ready)

/-- What an aggregate has gathered. -/
structure Gathered where
  /-- The values that have come up, if each of them counts only once. -/
  seen : List Values
  count : Nat
  best? : Option Value

namespace Accumulator

/-- Whether an aggregate looks for the greatest or the least value. -/
def isExtreme (a : Accumulator) : Bool := a.fn == .max || a.fn == .min

/-- Looks at a value for the greatest or least one. Also tells whether it is not a new one. -/
def compete (a : Accumulator) (g : Gathered) (v : Value) : Gathered × Bool :=
  match g.best? with
  | none => (if v == .null then g else { g with best? := some v }, false)
  | some best =>
    let isNew := v != .null && v.order best == (if a.fn == .max then .gt else .lt)
    (if isNew then { g with best? := some v } else g, !isNew)

/-- Looks at one more row. `skipped` tells whether the row is none by which a group is told. -/
def step (a : Accumulator) (env : Env) (g : Gathered) (skipped : Bool) :
    Except Error (Gathered × Bool) := do
  let vs ← Formula.evalAll env a.args
  if a.distinct && g.seen.any (Values.equal vs) then return (g, skipped)
  let g := if a.distinct then { g with seen := vs :: g.seen } else g
  match a.fn, vs with
  | .countRows, _ => return ({ g with count := g.count + 1 }, skipped)
  | .count, [.null] => return (g, skipped)
  | .count, _ => return ({ g with count := g.count + 1 }, skipped)
  | .max, [v] | .min, [v] => return a.compete g v
  | .max, _ | .min, _ => return (g, skipped)

/-- The result of an aggregate. -/
def result (a : Accumulator) (g : Gathered) : Value :=
  match a.fn with
  | .countRows | .count => .int (.ofNat g.count)
  | .max | .min => g.best?.getD .null

end Accumulator

/-- The rows of a group, as far as they have been looked at. -/
structure Group where
  /-- The values of the formulas by which the group is formed, for its first row. -/
  keys : Values
  gathered : List Gathered
  /-- The row by which the group is told. -/
  row? : Option Env

namespace Group

/-- A group without rows. -/
def empty (accumulators : List Accumulator) (keys : Values) : Group :=
  ⟨keys, accumulators.map fun _ => ⟨[], 0, none⟩, none⟩

/-- Looks at a row with each aggregate. -/
def stepAll (env : Env) : List (Accumulator × Gathered) → Bool →
    Except Error (List Gathered × Bool)
  | [], skipped => .ok ([], skipped)
  | (a, g) :: rest, skipped => do
    let (g, skipped) ← a.step env g skipped
    let (gs, skipped) ← stepAll env rest skipped
    return (g :: gs, skipped)

/-- A group with one more row. -/
def add (accumulators : List Accumulator) (env : Env) (g : Group) : Except Error Group := do
  let (gathered, skipped) ← stepAll env (accumulators.zip g.gathered) false
  let isTold := if accumulators.any Accumulator.isExtreme then !skipped else g.row?.isNone
  return { g with gathered, row? := if isTold then some env else g.row? }

/-- The row by which a group is told, with the results of the aggregates; `base` stands for the row
of a group without rows. -/
def told (accumulators : List Accumulator) (base : Env) (g : Group) : Env :=
  let results := (accumulators.zip g.gathered).flatMap fun (a, gathered) =>
    a.serials.map (·, a.result gathered)
  let env := g.row?.getD base
  { env with results := results ++ env.results }

/-- The groups of rows that come with the values of their keys; rows of a group are side by side. -/
def ofRows (accumulators : List Accumulator) :
    Option Group → Rows (Values × Env) → Rows Group
  | g?, .done | g?, .halted => .ofList g?.toList
  | _, .failed e => .failed e
  | g?, .row (keys, env) rest =>
    match g? with
    | none =>
      match (empty accumulators keys).add accumulators env with
      | .error e => .failed e
      | .ok g => ofRows accumulators (some g) (rest ())
    | some g =>
      if Values.equal g.keys keys then
        match g.add accumulators env with
        | .error e => .failed e
        | .ok g => ofRows accumulators (some g) (rest ())
      else
        .row g fun () =>
          match (empty accumulators keys).add accumulators env with
          | .error e => .failed e
          | .ok g => ofRows accumulators (some g) (rest ())

/-- The only group of rows, which is there without rows too. `stops` tells whether only the first
row counts. -/
def whole (accumulators : List Accumulator) (stops : Bool) (rows : Rows Env) :
    Except Error Group :=
  rows.fold (fun g env => do
    return (← g.add accumulators env, stops)) (empty accumulators [])

end Group

end RowCheck.Sql
