import RowCheck.Sql.Plan.Loop

/-!
# The order of nested loops

How much of an order the rows of nested loops have without being sorted, and which of the loops have
to run backwards for that.
-/

namespace RowCheck.Sql

/-- A formula by which rows are put in order. -/
structure OrderKey where
  formula : Formula Bound
  descending : Bool
  /-- Whether `NULL` comes behind all other values. -/
  nullsLast : Bool

/-- For what an order is asked. -/
inductive OrderUse where
  /-- To be sorted. -/
  | sorting
  /-- To have equal rows side by side, in any direction. -/
  | grouping
  /-- To have equal rows side by side. -/
  | distinct
  /-- To be sorted within each row of the outer loops. -/
  | innermost
  deriving DecidableEq

/-- What is known about an order while loops are looked at from the outside to the inside. -/
structure OrderState where
  /-- The places of the keys that are satisfied. -/
  done : List Nat
  /-- Whether no two rows of the loops so far are equal in their order. -/
  isStrict : Bool
  /-- The sources of the loops that are strict. -/
  strict : List Nat
  /-- The sources of the outer loops. -/
  ready : List Nat
  /-- The loops that run backwards. -/
  reversed : List Nat
  /-- Whether nothing can be said. -/
  isLost : Bool

namespace OrderState

/-- Whether a key is satisfied. -/
def has (s : OrderState) (i : Nat) : Bool := s.done.contains i

/-- A state with one more satisfied key. -/
def add (s : OrderState) (i : Nat) : OrderState := { s with done := i :: s.done }

/-- The keys that are columns fixed by terms about outer loops count as satisfied. -/
def addFixed (terms : List Term) (keys : List OrderKey) (source : Nat) (s : OrderState) :
    OrderState :=
  keys.zipIdx.foldl (fun s (k, i) =>
    match k.formula.bare.column? with
    | some c =>
      if !s.has i && c.source == source
          && (Term.find? terms c.place s.ready (fun r => r.fixes || r == .isNull) none).isSome then
        s.add i
      else s
    | none => s) s

/-- The keys that only look at strict loops count as satisfied. -/
def addStrict (sources : List Nat) (keys : List OrderKey) (source : Nat) (s : OrderState) :
    OrderState :=
  let s := { s with strict := source :: s.strict }
  keys.zipIdx.foldl (fun s (k, i) =>
    let needs := Term.sourcesOf sources k.formula
    if s.has i || (needs.isEmpty && !k.formula.isConstant) || !within needs s.strict then s
    else s.add i) s

/-- The columns by which the rows of a loop are sorted, each with whether it is sorted downwards and
whether its values may be `NULL`. -/
def columnsOf (table? : Option Table) (route : Route) :
    Option (List (Option Nat × Bool × Bool)) :=
  match route with
  | .rows => some [(none, false, false)]
  | .made => none
  | .index index =>
    let own := index.columns.map fun (i, down) =>
      match table?.bind (·.slotOf i) with
      | some i => (some i, down, !(table?.bind (·.columns[i]?)).any TableColumn.notNull)
      | none => (none, down, false)
    some (own ++ [(none, false, false)])

/-- The place of the first key that is a column and not satisfied; if equal rows only have to be
side by side, any key will do, or else only the first one that is left. -/
def match? (s : OrderState) (keys : List OrderKey) (use : OrderUse) (column : Place) : Option Nat :=
  let left := keys.zipIdx.filter fun (_, i) => !s.has i
  let left := if use == .grouping || use == .distinct then left else left.take 1
  (left.find? fun (k, _) => k.formula.bare.column?.any (·.place == column)).map (·.2)

/-- Goes through the columns of a loop; `reverse?` tells whether the loop is known to run backwards
or forwards. -/
def walk (keys : List OrderKey) (use : OrderUse) (level : Nat) (l : Loop) :
    Nat → List (Option Nat × Bool × Bool) → Option Bool → OrderState → Bool → OrderState × Bool
  | _, [], _, s, numbered => (s, numbered)
  | j, (column, down, mayBeNull) :: columns, reverse?, s, numbered =>
    let fixed? := (l.fixed[j]?).bind (·.2.restriction?)
    match fixed? with
    | some r =>
      let s := if r == .isNull || r == .is then { s with isStrict := false } else s
      walk keys use level l (j + 1) columns reverse? s numbered
    | none =>
      let s := if s.isStrict && mayBeNull then { s with isStrict := false } else s
      let failed (s : OrderState) : OrderState × Bool :=
        (if j = 0 || j < l.route.own then { s with isStrict := false } else s, numbered)
      match s.match? keys use (l.source, column) with
      | none => failed s
      | some i =>
        let key := keys[i]?
        let descending := key.any OrderKey.descending
        let turned := down != descending
        let fits := use == .grouping || reverse?.all (· == turned)
        let reverse? := if use == .grouping then reverse? else some (reverse?.getD turned)
        let s :=
          if use != .grouping && reverse? == some true && !s.reversed.contains level then
            { s with reversed := level :: s.reversed }
          else s
        if !fits || (key.any OrderKey.nullsLast && j != l.fixed.length) then failed s
        else walk keys use level l (j + 1) columns reverse? (s.add i) (numbered || column.isNone)

/-- Looks at one more loop. -/
def step (sources : List Candidate) (terms : List Term) (keys : List OrderKey) (use : OrderUse)
    (level : Nat) (l : Loop) (s : OrderState) : OrderState :=
  if s.isLost || !s.isStrict || s.done.length = keys.length then s
  else
    let numbers := sources.map Candidate.number
    let table? := (sources.find? (·.number == l.source)).bind Candidate.table?
    let s := s.addFixed terms keys l.source
    let s :=
      if l.isSingle then s
      else
        match columnsOf table? l.route with
        | none => { s with isLost := true }
        | some columns =>
          let (s, numbered) := walk keys use level l 0 columns none s false
          if numbered then { s with isStrict := true } else s
    if s.isLost then s
    else
      let s := if s.isStrict then s.addStrict numbers keys l.source else s
      { s with ready := l.source :: s.ready }

end OrderState

/-- The greatest number of keys that are looked at. -/
def maxKeys : Nat := 63

/-- How many of the first keys are satisfied by loops, the last of which is given on its own; none
if that may still depend on further loops. Also the loops that have to run backwards. -/
def satisfied (sources : List Candidate) (terms : List Term) (keys : List OrderKey)
    (use : OrderUse) (outer : List Loop) (last? : Option Loop) : Option Nat × List Nat :=
  if maxKeys < keys.length then (some 0, [])
  else
    let start : OrderState := ⟨[], true, [], [], [], false⟩
    let s : OrderState :=
      if use == .innermost then { start with ready := (outer.map Loop.source).reverse }
      else outer.zipIdx.foldl (fun s (l, level) =>
        s.step sources terms keys use level l) start
    let s := match last? with
      | some l => s.step sources terms keys use outer.length l
      | none => s
    if s.isLost then (some 0, s.reversed)
    else if s.done.length = keys.length then (some keys.length, s.reversed)
    else if !s.isStrict then
      (some ((List.range keys.length).takeWhile s.has).length, s.reversed)
    else (none, s.reversed)

end RowCheck.Sql
