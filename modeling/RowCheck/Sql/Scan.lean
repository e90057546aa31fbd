import RowCheck.Sql.Coding
import RowCheck.Sql.Plan.Choice
import RowCheck.Sql.Reduction.Narrowing

/-!
# Going through sources

The rows of nested loops. Each loop goes through the rows of one source that its terms leave over,
in the order of its route, and tests the conditions that can be told by then.
-/

namespace RowCheck.Sql

/-- The value of a column, or the number of a row. -/
def StoredRow.get (r : StoredRow) : Option Nat → Value
  | none => .int (.ofInt r.number)
  | some i => r.values.getD i .null

/-- A source that is ready to be gone through. -/
structure ReadySource where
  candidate : Candidate
  rows : Env → Rows StoredRow
  /-- Whether its rows are there before they are asked for. -/
  isStored : Bool
  /-- The database in which rows are looked up beforehand. -/
  database : Database

/-- A term whose right side is ready. -/
structure ReadyKey where
  column : Option Nat
  restriction : Restriction
  /-- Whether it only asks for a value other than `NULL`. -/
  isPresence : Bool
  value : Formula Ready
  /-- The affinity to which the value is converted. -/
  affinity? : Option Affinity

namespace ReadyKey

/-- The value by which rows are found; nothing if no row can have it. -/
def value? (k : ReadyKey) (env : Env) : Except Error (Option Value) := do
  let v ← k.value.eval env
  let isVoid := v == .null && k.restriction != .is && k.restriction != .isNull && !k.isPresence
  if isVoid then return none
  return some (match k.affinity? with
    | some affinity => v.store (if isNumeric affinity then .numeric else affinity)
    | none => v)

/-- Whether a row has a value that is asked for. -/
def admits (k : ReadyKey) (v : Value) (r : StoredRow) : Bool :=
  let w := r.get k.column
  if k.isPresence then w != .null
  else
    match k.restriction, w.order v with
    | .equal, o | .is, o => o == .eq
    | .isNull, _ => w == .null
    | .below, o => w != .null && o == .lt
    | .atMost, o => w != .null && o != .gt
    | .above, o => w != .null && o == .gt
    | .atLeast, o => w != .null && o != .lt

/-- The rows that have the values of all keys; nothing if no row can have them. -/
def filter (env : Env) : List ReadyKey → List StoredRow → Except Error (Option (List StoredRow))
  | [], rows => .ok (some rows)
  | k :: ks, rows => do
    match ← k.value? env with
    | none => return none
    | some v => filter env ks (rows.filter (k.admits v))

end ReadyKey

/-- A loop that is ready to run. -/
structure ReadyLoop where
  source : ReadySource
  /-- Puts the rows in the order of the loop. -/
  arrange : List StoredRow → List StoredRow
  /-- Whether the rows are those of the table itself. -/
  isPlain : Bool
  fixed : List ReadyKey
  /-- The bounds, the one at which the loop starts first. -/
  start? : Option ReadyKey
  stop? : Option ReadyKey

/-- The rows of a loop. -/
def ReadyLoop.rows (l : ReadyLoop) (env : Env) : Rows StoredRow :=
  if l.isPlain && l.fixed.isEmpty && l.start?.isNone && l.stop?.isNone && !l.source.isStored then
    l.source.rows env
  else
    .ofExcept do
      let all ← (l.source.rows env).toList
      let isEmpty := l.isPlain && l.source.isStored && all.isEmpty
      match ← ReadyKey.filter env l.fixed all with
      | none => return .done
      | some rows =>
        if isEmpty && l.fixed.isEmpty && l.start?.isNone then return .halted
        match ← ReadyKey.filter env l.start?.toList rows with
        | none | some [] => return .done
        | some rows =>
          match ← ReadyKey.filter env l.stop?.toList rows with
          | none => return .done
          | some rows => return .ofList (l.arrange rows)

/-- A loop, and the conditions that are tested in it. -/
structure Level where
  source : Nat
  rows : Env → Rows StoredRow
  tests : List (Formula Ready)

/-- Whether all of several conditions hold. -/
def holdAll (env : Env) : List (Formula Ready) → Except Error Bool
  | [] => .ok true
  | e :: es => do if ← e.refuted env true then return false else holdAll env es

/-- The combinations of rows of nested loops. -/
def Level.nest : List Level → Env → Rows Env
  | [], env => .single env
  | l :: ls, env =>
    (l.rows env).flatMap fun row =>
      let env := env.move l.source row
      match holdAll env l.tests with
      | .error e => .failed e
      | .ok false => .done
      | .ok true => nest ls env

/-- The sources of a block, ready to be gone through. -/
structure Scan where
  plan : Plan
  /-- What is tested before the first row. -/
  before : List (Formula Ready)
  levels : List Level

/-- The combinations of rows. -/
def Scan.rows (s : Scan) (env : Env) : Rows Env :=
  match holdAll env s.before with
  | .error e => .failed e
  | .ok false => .done
  | .ok true => Level.nest s.levels env

namespace Scan

/-- Marks a term as told, and the term that it was made from, as far as their sources are known. -/
def tell (terms : List Term) (ready : List Nat) (told : List Nat) (place : Nat) : List Nat :=
  let mark (told : List Nat) (i : Nat) : List Nat × Bool :=
    match terms[i]? with
    | some t => if !told.contains i && within t.needs ready then (i :: told, true) else (told, false)
    | none => (told, false)
  match mark told place, (terms[place]?).bind Term.parent? with
  | (told, true), some parent => (mark told parent).1
  | (told, _), _ => told

/-- The affinity to which a value is converted when it is looked up by a column. -/
def keyAffinity (columnAffinity? : Option Affinity) (value : Formula Bound) : Option Affinity :=
  match columnAffinity?, value.affinity? with
  | none, _ | some .blob, _ => none
  | some a, some b => if isNumeric a || isNumeric b then some a else none
  | some a, none => some a

/-- The terms by which an index can be made, each about a column of its own. -/
def drivers (s : Candidate) (terms : List Term) (ready : List Nat) : List Placed :=
  let found := terms.zipIdx.filter fun (t, _) => s.canDrive (some ready) t
  (found.foldl (fun (kept : List Placed) (t, i) =>
    if kept.any fun (_, u) => u.left?.map ColumnRef.index? == t.left?.map ColumnRef.index? then kept
    else (i, t) :: kept) []).reverse

section Code

variable (coder : Coder) (setting : Setting)

/-- The right side of a term, made ready. -/
def key (s : Candidate) (column : Option Nat) (t : Term) : Coding (Option ReadyKey) := do
  match t.restriction? with
  | none => return none
  | some r =>
    let side := t.rightSide?.getD .null
    let affinity? :=
      match column with
      | none => some .numeric
      | some i => keyAffinity (t.left?.bind fun c =>
          if c.source = s.number then c.affinity? else s.affinity? i) side
    let value ← side.code coder setting
    return some ⟨column, r, t.isPresence, value, affinity?⟩

/-- The rows of an index that is made for a query: the rows of a source for which the conditions on
them alone hold, sorted by the columns of the index. -/
def madeRows (s : ReadySource) (conditions : List (Formula Ready)) (columns : List Nat) :
    Except Error (List StoredRow) := do
  let env := Env.start s.database
  let kept : Rows StoredRow := (s.rows env).filterMap fun row => do
    return if ← holdAll (env.move s.candidate.number row) conditions then some row else none
  return sortBy (columns.map fun _ => false) (fun r => columns.map fun i => r.get (some i))
    (← kept.toList)

/-- A loop with an index that is made for it. -/
def makeLoop (s : ReadySource) (terms : List Term) (driven : List Placed) (keys : List ReadyKey) :
    Coding ReadyLoop := do
  let own := terms.filter fun t => !t.isMade && t.formula.isOfSource s.candidate.number false
  let conditions ← own.mapM fun t => t.formula.code coder setting
  let first := driven.filterMap fun (_, t) => t.left?.bind ColumnRef.index?
  let others := (s.candidate.used.filter fun i => !first.contains i).mergeSort
  let made := Thunk.mk fun _ => madeRows s conditions (first ++ others)
  let source := { s with rows := fun _ => .ofExcept (made.get.map .ofList) }
  return ⟨source, id, false, keys, none, none⟩

/-- The rows of an index in its order. Those without a value in the column for which that is asked
come at the end. -/
def arrangeIndex (index : Index) (reversed : Bool) (nullsLast? : Option Nat)
    (rows : List StoredRow) : List StoredRow :=
  let sorted := sortBy (index.columns.map (·.2))
    (fun r => index.columns.map fun (i, _) => r.get (some i)) rows
  let sorted := if reversed then sorted.reverse else sorted
  match nullsLast? with
  | some column =>
    let (absent, present) := sorted.partition fun r => r.get (some column) == .null
    present ++ absent
  | none => sorted

/-- The column of an index by which an order wants the rows without a value at the end. -/
def nullsLast? (order : List OrderKey) (l : Loop) (index : Index) : Option Nat :=
  if l.lower?.isSome || l.upper?.isSome then none
  else
    (index.columns[l.fixed.length]?).bind fun (column, _) =>
      let isWanted := order.any fun k =>
        k.nullsLast && k.formula.bare.column?.any (·.place == (l.source, some column))
      if isWanted then some column else none

/-- A loop of a plan, made ready. -/
def codeLoop (s : ReadySource) (terms : List Term) (order : List OrderKey) (reversed : Bool)
    (l : Loop) (driven : List Placed) : Coding ReadyLoop := do
  let c := s.candidate
  let columns : List (Option Nat) :=
    match l.route with
    | .rows => [none]
    | .index index =>
      index.columns.map (fun (i, _) => (c.table?.map (·.slotOf i)).getD (some i)) ++ [none]
    | .made => driven.map fun (_, t) => t.left?.bind ColumnRef.index?
  let fixed := if l.route == .made then driven else l.fixed
  let keys ← (fixed.zip columns).filterMapM fun ((_, t), column) => key coder setting c column t
  let bound (p? : Option Placed) : Coding (Option ReadyKey) := do
    match p?, columns[l.fixed.length]? with
    | some (_, t), some column => key coder setting c column t
    | _, _ => return none
  let lower? ← bound l.lower?
  let upper? ← bound l.upper?
  match l.route with
  | .made => makeLoop coder setting s terms driven keys
  | .rows =>
    let (start?, stop?) := if reversed then (upper?, lower?) else (lower?, upper?)
    return ⟨s, if reversed then List.reverse else id, true, keys, start?, stop?⟩
  | .index index =>
    let down := (index.columns[l.fixed.length]?).any (·.2)
    let (start?, stop?) := if reversed != down then (upper?, lower?) else (lower?, upper?)
    return ⟨s, arrangeIndex index reversed (nullsLast? order l index), false, keys, start?, stop?⟩

/-- The terms that a loop tells by itself. -/
def toldBy (terms : List Term) (ready : List Nat) (l : Loop) (fixed : List Placed)
    (told : List Nat) : List Nat :=
  let told := fixed.foldl (fun told (i, t) =>
    if l.isIndirect && t.isEquivalence && l.route != .made then told else tell terms ready told i)
    told
  (l.lower?.toList ++ l.upper?.toList).foldl (fun told (i, _) => tell terms ready told i) told

/-- The conditions that can be tested in a loop, in their order: first those that need nothing but
an index, last those with queries about the rows around them. -/
def testable (s : Candidate) (terms : List Term) (ready : List Nat) (l : Loop) (told : List Nat) :
    List Placed :=
  let open_ : List Placed := (terms.zipIdx.filter fun (t, i) =>
    !t.isMade && !told.contains i && within t.needs ready).map fun (t, i) => (i, t)
  let isFirst (t : Term) : Bool :=
    match l.route with
    | .index index => !l.isCovering && !t.isCostly && s.isCovered index t.formula
    | _ => false
  let (first, others) := open_.partition fun (_, t) => isFirst t
  let (second, third) := others.partition fun (_, t) => !t.isCostly
  first ++ second ++ third

/-- The conditions that follow for a source because it has a column that is equal to one of a source
further inside, each with the term that it comes from. -/
def implied (terms : List Term) (outer ready : List Nat) (source : Nat) (told : List Nat) :
    List (Nat × Formula Bound) × List Nat :=
  terms.zipIdx.foldl (fun (found, told) (t, i) =>
    match t.left?, t.formula with
    | some c, .binary _ l _ =>
      if !t.isMade && !told.contains i && t.fixes && t.isEquivalence && c.source == source
          && !within t.right ready then
        match Term.find? terms c.place outer Restriction.fixes none with
        | some (j, alt) =>
          match alt.formula with
          | .binary op _ r =>
            if told.contains j then (found, told)
            else (found ++ [(j, .binary op l r)], j :: told)
          | _ => (found, told)
        | none => (found, told)
      else (found, told)
    | _, _ => (found, told)) ([], told)

/-- The loops of a plan from a place on, made ready. -/
def codeLevels (sources : List ReadySource) (terms : List Term) (order : List OrderKey)
    (plan : Plan) : Nat → List Nat → List Nat → List Loop → Coding (List Level)
  | _, _, _, [] => return []
  | level, outer, told, l :: ls => do
    match sources.find? (·.candidate.number == l.source) with
    | none => return []
    | some s =>
      let driven := if l.route == .made then drivers s.candidate terms outer else []
      let loop ← codeLoop coder setting s terms order (plan.reversed.contains level) l driven
      let ready := l.source :: outer
      let told := toldBy terms ready l (if l.route == .made then driven else l.fixed) told
      let tests := testable s.candidate terms ready l told
      let told := tests.map (·.1) ++ told
      let (more, told) := implied terms outer ready l.source told
      let tests ← (tests.map (·.2.formula) ++ more.map (·.2)).mapM fun e => e.code coder setting
      let levels ← codeLevels sources terms order plan (level + 1) ready told ls
      return ⟨l.source, loop.rows, tests⟩ :: levels

/-- The greatest number of sources of a block. -/
def maxSources : Nat := 64

/-- Plans how to go through sources, and makes it ready. -/
def make (sources : List ReadySource) (conditions : List (Formula Bound)) (aim : Aim) :
    Coding Scan := do
  if maxSources < sources.length then
    Coding.blame (.failed .error s!"at most {maxSources} tables in a join")
  let candidates := sources.map ReadySource.candidate
  let terms := Term.ofConditions (candidates.map Candidate.number) conditions
  let isBefore (t : Term) : Bool :=
    !t.isMade && t.needs.isEmpty && (sources.isEmpty || !t.formula.hasQuery)
  let before ← (terms.filter isBefore).mapM fun t => t.formula.code coder setting
  let plan := Plan.make candidates terms aim
  let told := (terms.zipIdx.filter fun (t, _) => isBefore t).map (·.2)
  let inside := { setting with repeated := setting.repeated + plan.rows }
  let levels ← codeLevels coder inside sources terms aim.order plan 0 [] told plan.loops
  return ⟨plan, before, levels⟩

end Code

end Scan

end RowCheck.Sql
