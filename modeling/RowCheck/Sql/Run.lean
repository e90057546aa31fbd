import RowCheck.Sql.Plan.Estimate
import RowCheck.Sql.Sorting

/-!
# Windows and set operations

Runs of queries: rows on demand, of which a window is taken in the end. Two runs are put together
one behind the other, as sets, or row by row if both come in the same order.
-/

namespace RowCheck.Sql

/-- A query that runs, before a window of its rows is taken. -/
structure Run where
  estimate : Int
  /-- Does what comes before the window is told; then no more rows are wanted than the window needs.
  -/
  start : Env → Except Error (Option Nat → Rows Pending)

namespace Run

/-- All results of a run. -/
def results (r : Run) (env : Env) : Except Error (List Values) := do
  let rows ← r.start env
  ((rows none).filterMap fun p => some <$> p ()).toList

/-- The rows of two runs, one run after the other. -/
def append (a b : Run) : Run where
  estimate := Estimate.add a.estimate b.estimate
  start env := do
    let rows ← a.start env
    return fun bound? => (rows bound?).append fun () =>
      .ofExcept ((· bound?) <$> b.start env)

/-- The order of rows as members of a set. -/
def memberOrder (row : Values) : List Bool := row.map fun _ => false

/-- Adds a row to a sorted set; an equal one gives way. -/
def insertMember (row : Values) : List Values → List Values
  | [] => [row]
  | r :: rs =>
    match Values.compare (memberOrder row) row r with
    | .lt => row :: r :: rs
    | .eq => row :: rs
    | .gt => r :: insertMember row rs

/-- The rows of a list as a sorted set; of equal ones the last one stays. -/
def members (rows : List Values) : List Values :=
  rows.foldl (fun set row => insertMember row set) []

/-- The rows of two runs put together as a set. -/
def combine (op : SetOperator) (a b : Run) : Run where
  estimate :=
    match op with
    | .union | .unionAll => Estimate.add a.estimate b.estimate
    | .except => b.estimate
    | .intersect => min a.estimate b.estimate
  start env := do
    let left ← a.results env
    let right ← b.results env
    let isIn (row : Values) : Bool := right.any (Values.equal row)
    let kept : List Values :=
      match op with
      | .union | .unionAll => left ++ right
      | .except => left.filter (!isIn ·)
      | .intersect => left.filter isIn
    return fun _ => .ofList ((members kept).map fun row => fun () => .ok row)

section Merge

variable (op : SetOperator) (compare : Values → Values → Ordering)

/-- Rows behind the rows of both sides: those on the right count only if they can be added. -/
def rest : Rows Values → Rows Values
  | bs => if op == .union || op == .unionAll then bs else .done

/-- Goes through the rows on the right side while `a` stands on the left one; `next` goes on with
the row behind it. -/
def mergeRight (a : Values) (left : Rows Values) (next : Rows Values → Rows Values) :
    Rows Values → Rows Values
  | .done | .halted => if op == .intersect then .done else left
  | .failed e => .failed e
  | .row b more =>
    match compare a b with
    | .lt =>
      if op == .intersect then next (.row b more) else .row a fun () => next (.row b more)
    | .eq =>
      if op == .unionAll || op == .intersect then .row a fun () => next (.row b more)
      else next (.row b more)
    | .gt =>
      if op == .union || op == .unionAll then
        .row b fun () => mergeRight a left next (more ())
      else mergeRight a left next (more ())

/-- Merges rows that come in the same order. -/
def merge : Rows Values → Rows Values → Rows Values
  | .done, bs | .halted, bs => rest op bs
  | .failed e, _ => .failed e
  | .row a more, bs => mergeRight op compare a (.row a more) (fun bs => merge (more ()) bs) bs

/-- Rows without those that are equal to the one before them. -/
def dropRepeated : Option Values → Rows Values → Rows Values
  | _, .done => .done
  | _, .halted => .halted
  | _, .failed e => .failed e
  | last?, .row a more =>
    if last?.any (Values.equal a) then dropRepeated last? (more ())
    else .row a fun () => dropRepeated (some a) (more ())

/-- Merges the rows of two runs that come in the same order. -/
def mergeSorted (a b : Run) : Run where
  estimate :=
    match op with
    | .union | .unionAll => Estimate.add a.estimate b.estimate
    | .except => b.estimate
    | .intersect => min a.estimate b.estimate
  start env :=
    return fun bound? =>
      let bound? := if op == .unionAll then bound? else none
      let told (r : Run) : Rows Values :=
        .ofExcept do return ((← r.start env) bound?).filterMap fun p => some <$> p ()
      let left := told a
      let merged :=
        match left with
        | .done | .halted => if op == .union || op == .unionAll then told b else .done
        | _ => merge op compare left (told b)
      let merged := if op == .unionAll then merged else dropRepeated none merged
      merged.map fun row => fun () => .ok row

end Merge

end Run

/-- The numbers of rows to leave out and to take; without a limit all are taken. -/
structure Window where
  skip : Nat
  most? : Option Nat

namespace Window

/-- The number that a value is. -/
def number (v : Value) : Except Error Int :=
  match v.store .numeric with
  | .int i => .ok i.toInt
  | _ => .error Table.mismatch

/-- The window that formulas give. A limit below zero is none, and what comes after a limit of zero
is not looked at. -/
def ofFormulas (limit? offset? : Option (Formula Ready)) (env : Env) : Except Error Window := do
  let offset : Except Error Nat :=
    match offset? with
    | none => .ok 0
    | some e => do return (← number (← e.eval env)).toNat
  match limit? with
  | none => return ⟨← offset, none⟩
  | some e =>
    let n ← number (← e.eval env)
    if n = 0 then return ⟨0, some 0⟩
    return ⟨← offset, if n < 0 then none else some n.toNat⟩

/-- The rows in a window. -/
def rows {α : Type} (w : Window) (rows : Option Nat → Rows α) : Rows α :=
  match w.most? with
  | some 0 => .done
  | some n => ((rows (some (w.skip + n))).drop w.skip).take n
  | none => (rows none).drop w.skip

end Window

/-- A run of which a window is taken. -/
def Run.within (r : Run) (window : Env → Except Error Window) : Ready :=
  let rows (env : Env) : Rows Values :=
    .ofExcept do
      let rows ← r.start env
      let w ← window env
      return (w.rows rows).filterMap fun p => some <$> p ()
  ⟨r.estimate, rows, fun env => (rows env).head?⟩

end RowCheck.Sql
