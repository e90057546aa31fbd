import RowCheck.Sql.Evaluate

/-!
# Sorting rows

What becomes of the rows of a block: each gives a row of results, equal ones are left out if that is
asked, and they are put in order. Rows the first keys of which are in order already are sorted in
parts. If only some of the first rows are wanted, no more of them are held.
-/

namespace RowCheck.Sql

/-- Results that are told when they are asked for. -/
abbrev Pending := Unit → Except Error Values

/-- How the rows of a block become results. -/
structure Sorter where
  /-- Whether equal results count only once. -/
  distinct : Bool
  keys : List (Formula Ready)
  /-- Whether the rows are sorted downwards by each key. -/
  down : List Bool
  /-- How many of the first keys are in order already. -/
  sorted : Nat
  /-- Whether results are told only for rows that are held. -/
  isDeferred : Bool

/-- A row that is held, by its keys. -/
structure HeldRow where
  keys : Values
  results : Values

/-- The rows that are held while rows are sorted. -/
structure Held where
  /-- How many more rows can be held, if not all can be. -/
  room? : Option Nat
  /-- The newest row comes first, or the last one in the order if there is no more room. -/
  rows : List HeldRow
  /-- The keys of the last row that was looked at. -/
  keys? : Option Values

namespace Sorter

/-- The order of two rows. -/
def compare (s : Sorter) (a b : Values) : Ordering := Values.compare s.down a b

/-- Rows in their order; equal ones stay as they are. -/
def arrange (s : Sorter) (rows : List HeldRow) : List HeldRow :=
  rows.mergeSort fun a b => s.compare a.keys b.keys != .gt

/-- The rows that are held, in their order. -/
def release (s : Sorter) (h : Held) : List HeldRow :=
  if h.room? == some 0 then h.rows.reverse else s.arrange h.rows.reverse

/-- Puts a row among rows that are in the opposite order. -/
def place (s : Sorter) (row : HeldRow) : List HeldRow → List HeldRow
  | [] => [row]
  | r :: rs => if s.compare r.keys row.keys == .gt then r :: place s row rs else row :: r :: rs

/-- Whether a row is to be held. -/
def admits (s : Sorter) (h : Held) (keys : Values) : Bool :=
  h.room? != some 0 || h.rows.head?.any fun last => s.compare last.keys keys == .gt

/-- Holds one more row; the last one gives way if there is no more room. -/
def hold (s : Sorter) (h : Held) (row : HeldRow) : Held :=
  match h.room? with
  | some 0 => { h with rows := s.place row (h.rows.drop 1) }
  | some 1 => { h with room? := some 0, rows := (s.arrange (row :: h.rows).reverse).reverse }
  | some (n + 2) => { h with room? := some (n + 1), rows := row :: h.rows }
  | none => { h with rows := row :: h.rows }

/-- Whether two rows belong to different parts. -/
def differ (s : Sorter) (a b : Values) : Bool :=
  !Values.equal (a.take s.sorted) (b.take s.sorted)

/-- Rows of results that have been told. -/
def told (rows : List HeldRow) : Rows Pending := .ofList (rows.map fun r => fun () => .ok r.results)

/-- Looks at one more row. -/
def step (s : Sorter) (h : Held) (keys : Values) (results : Pending) : Except Error Held := do
  let h := { h with keys? := some keys }
  if s.admits h keys then return s.hold h ⟨keys, ← results ()⟩ else return h

/-- The rows in their order. -/
def sort (s : Sorter) : Held → Rows (Env × Pending) → Rows Pending
  | h, .done | h, .halted => told (s.release h)
  | _, .failed e => .failed e
  | h, .row (env, results) rest =>
    let found : Except Error (Values × Pending) := do
      if s.isDeferred then return (← Formula.evalAll env s.keys, results)
      let vs ← results ()
      return (← Formula.evalAll env s.keys, fun () => .ok vs)
    match found with
    | .error e => .failed e
    | .ok (keys, results) =>
      if 0 < s.sorted && h.keys?.any (s.differ keys) then
        (told (s.release h)).append fun () =>
          if h.room? == some 0 then .done
          else
            match s.step { h with rows := [] } keys results with
            | .error e => .failed e
            | .ok h => sort s h (rest ())
      else
        match s.step h keys results with
        | .error e => .failed e
        | .ok h => sort s h (rest ())

/-- The rows without those whose results have come up before. -/
def dropEqual : List Values → Rows (Env × Pending) → Rows (Env × Pending)
  | _, .done => .done
  | _, .halted => .halted
  | _, .failed e => .failed e
  | seen, .row (env, results) rest =>
    match results () with
    | .error e => .failed e
    | .ok vs =>
      if seen.any (Values.equal vs) then dropEqual seen (rest ())
      else .row (env, fun () => .ok vs) fun () => dropEqual (vs :: seen) (rest ())

/-- The results of rows; of the sorted ones no more than `bound?` are wanted. -/
def rows (s : Sorter) (bound? : Option Nat) (all : Rows (Env × Pending)) : Rows Pending :=
  let all := if s.distinct then dropEqual [] all else all
  if s.keys.isEmpty then all.map (·.2) else s.sort ⟨bound?, [], none⟩ all

end Sorter

end RowCheck.Sql
