import RowCheck.Sql.Evaluate
import RowCheck.Sql.Scope

/-!
# Making formulas ready

Before a statement runs, its formulas and queries are made ready to run. Faults that come up only
then are noted on the way; of several faults the last one is reported.
-/

namespace RowCheck.Sql

/-- Making something ready, with the last fault. -/
abbrev Coding := StateM (Option Error)

/-- Where the values of a query go. -/
inductive Destination where
  /-- They are asked for one by one. -/
  | stream
  /-- They are collected. -/
  | collected
  /-- Only the first one counts. -/
  | scalar
  /-- They are members of a set. -/
  | set
  deriving DecidableEq

/-- Where formulas stand while they are made ready. -/
structure Setting where
  sql : String
  database : Database
  /-- The blocks whose aggregates can be named. -/
  owners : List Nat
  /-- The estimate of how often the formulas are told. -/
  repeated : Int

/-- How queries inside of formulas are made ready. -/
abbrev Coder := Setting → Destination → Bound → Coding Ready

namespace Coding

/-- Notes a fault. -/
def blame (e : Error) : Coding Unit := set (some e)

/-- What is made ready, if there was no fault. -/
def finish {α : Type} (c : Coding α) : Except Error α :=
  match c.run none with
  | (_, some e) => .error e
  | (a, none) => .ok a

end Coding

namespace Setting

/-- A fault at a place of the statement. -/
def blameAt (s : Setting) (offset : Nat) (message : String) : Coding Unit :=
  Coding.blame (if offset = 0 then .failed .error message else .atOffset message s.sql offset)

end Setting

namespace Formula

/-- A comparison of rows, value by value. -/
def compareRows (op : Operator) : List (Option Affinity × Value × Value) → Value
  | [] => .ofBool (op != .ne && op != .isNot && op != .lt && op != .gt)
  | [(affinity?, a, b)] => op.apply affinity? a b
  | (affinity?, a, b) :: rest =>
    let isSame := Operator.apply (if op = .is ∨ op = .isNot then .is else .eq) affinity? a b
    match op with
    | .eq | .is => Operator.apply .and none isSame (compareRows op rest)
    | .ne | .isNot =>
      let differs := Value.ofTruth (isSame.truth?.map (!·))
      Operator.apply .or none differs (compareRows op rest)
    | _ =>
      match isSame.truth? with
      | none => .null
      | some true => compareRows op rest
      | some false => op.apply affinity? a b

/-- The affinities of the values of a formula. -/
def affinities : Formula Bound → List (Option Affinity)
  | .query q _ _ => q.retrieval.last.outputs.map (·.formula.affinity?)
  | .row items => items.map Formula.affinity?
  | e => [e.affinity?]

/-- Whether an operator compares the rows that two formulas are. -/
def comparesRows (op : Operator) (a b : Formula Bound) : Bool :=
  op.isComparison && 1 < a.width && a.width = b.width

/-- A query, and whether it looks at the sources around it. -/
abbrev Nested := Bound × Bool

/-- What gives the values of a row. -/
abbrev ReadyRow := Env → Except Error Values

/-- A comparison of rows, made ready. -/
def rowComparison (op : Operator) (affinities : List (Option Affinity)) (a b : ReadyRow) :
    Formula Ready :=
  let value (env : Env) : Except Error Value := do
    let xs ← a env
    let ys ← b env
    return compareRows op (affinities.zip (xs.zip ys))
  let first (env : Env) : Except Error (Option Values) := (value env).map fun v => some [v]
  .query ⟨0, fun env => .ofExcept ((value env).map fun v => .single [v]), first⟩ true none

section Code

variable (coder : Coder) (s : Setting)

/-- A query that takes the place of a value, or of a row, made ready. -/
def codeQuery (q : Nested) : Coding Ready := do
  let ready ← coder s .scalar q.1
  return if q.2 then ready else ready.once s.database

/-- A query that takes the place of a value, made ready. -/
def codeValue (q : Nested) : Coding Ready := do
  if q.1.width = 1 then codeQuery coder s q
  else
    Coding.blame (Scope.wrongWidth q.1.width)
    return ⟨0, fun _ => .done, fun _ => .ok none⟩

mutual

/-- A formula made ready. -/
def code : Formula Bound → Coding (Formula Ready)
  | .literal l => return .literal l
  | .oversized written offset => do
    s.blameAt offset s!"hex literal too big: {written}"
    return .oversized written offset
  | .column c => return .column c
  | .fixed c e => do return .fixed c (← code e)
  | .derived e => do return .derived (← code e)
  | .aggregate owner serial name fn distinct args => do
    if !s.owners.contains owner then s.blameAt name.offset s!"misuse of aggregate: {name.text}()"
    return .aggregate owner serial name fn distinct (← codeAll args)
  | .negate e => do
    let f ← code e
    if let .oversized written offset := e then
      s.blameAt offset s!"hex literal too big: -{written}"
    return .negate f
  | .plus e => do return .plus (← code e)
  | .not e => do return .not (← code e)
  | .nullTest isNull e => do return .nullTest isNull (← code e)
  | .truthTest negated truth e => do return .truthTest negated truth (← code e)
  | .binary op l r => do
    if comparesRows op l r then
      let a ← codeRow l
      let b ← codeRow r
      return rowComparison op (List.zipWith comparisonAffinity l.affinities r.affinities) a b
    else
      let f ← code l
      return .binary op f (← code r)
  | .cast e type => do return .cast (← code e) type
  | .call fn args => do return .call fn (← codeAll args)
  | .row _ => do
    Coding.blame (.failed .error "row value misused")
    return .null
  | .query q correlated affinity? => do
    return .query (← codeValue coder s (q, correlated)) correlated affinity?

/-- Several formulas made ready. -/
def codeAll : List (Formula Bound) → Coding (List (Formula Ready))
  | [] => return []
  | e :: es => do
    let f ← code e
    return f :: (← codeAll es)

/-- The values of a row made ready. -/
def codeRow : Formula Bound → Coding ReadyRow
  | .row items => do
    let ready ← codeAll items
    return fun env => evalAll env ready
  | .query q correlated _ => do
    let ready ← codeQuery coder s (q, correlated)
    return fun env => do return (← ready.first env).getD (List.replicate q.width .null)
  | _ => return fun _ => .ok []

end

end Code

end Formula

end RowCheck.Sql
