import RowCheck.Sql.Block

/-!
# Terms

The conditions of a block as its planner sees them: which column a condition compares with what, and
which sources it looks at. A comparison of two columns gives a second term that starts from the
other side. Columns that are equal to each other stand for each other.
-/

namespace RowCheck.Sql

/-- How a term restricts the column on its left side. -/
inductive Restriction where
  | equal
  | is
  | below
  | atMost
  | above
  | atLeast
  | isNull
  deriving DecidableEq

namespace Restriction

/-- The restriction that an operator is. -/
def ofOperator? : Operator → Option Restriction
  | .eq => some .equal
  | .is => some .is
  | .lt => some .below
  | .le => some .atMost
  | .gt => some .above
  | .ge => some .atLeast
  | _ => none

/-- Whether a restriction gives the value of a column. -/
def fixes : Restriction → Bool
  | .equal | .is => true
  | _ => false

/-- Whether a restriction bounds a column from above. -/
def isUpper : Restriction → Bool
  | .below | .atMost => true
  | _ => false

/-- Whether a restriction bounds a column from below. -/
def isLower : Restriction → Bool
  | .above | .atLeast => true
  | _ => false

end Restriction

/-- A column of a source, or its row number. -/
abbrev Place := Nat × Option Nat

/-- The place of a column. -/
def ColumnRef.place (c : ColumnRef) : Place := (c.source, c.index?)

/-- A condition as the planner sees it. -/
structure Term where
  formula : Formula Bound
  /-- The term that it was made from, if it is not one of the conditions. -/
  parent? : Option Nat
  /-- The column on its left side. -/
  left? : Option ColumnRef
  /-- What it says about that column. -/
  restriction? : Option Restriction
  /-- Whether it says that two columns are equal. -/
  isEquivalence : Bool
  /-- Whether it only says that a column is not `NULL`. -/
  isPresence : Bool
  /-- The sources that the right side looks at. -/
  right : List Nat
  /-- All sources that it looks at. -/
  needs : List Nat
  /-- Whether there is a query in it that looks at the sources around it. -/
  isCostly : Bool

/-- Whether all members of a list are in another one. -/
def within (as bs : List Nat) : Bool := as.all bs.contains

namespace Term

/-- Whether a term was made from another one. -/
def isMade (t : Term) : Bool := t.parent?.isSome

/-- Whether a term gives the value of a column. -/
def fixes (t : Term) : Bool := t.restriction?.any Restriction.fixes

/-- The right side of a term. -/
def rightSide? (t : Term) : Option (Formula Bound) :=
  match t.formula with
  | .binary _ _ r => some r
  | _ => none

/-- The conditions that a condition is made of, without what says that they come from a nested
query. -/
def split : Formula Bound → List (Formula Bound)
  | .derived e => split e
  | .binary .and l r => split l ++ split r
  | e => [e]

/-- The sources of a block that a formula looks at. -/
def sourcesOf (sources : List Nat) (e : Formula Bound) : List Nat :=
  ((e.allColumns.map ColumnRef.source).filter sources.contains).eraseDups

/-- Whether columns of two affinities that are equal stand for each other. -/
def areAlike (a b : Option Affinity) : Bool := a == b || (a.any isNumeric && b.any isNumeric)

/-- A condition that is no restriction of a column. -/
def other (sources : List Nat) (e : Formula Bound) : Term :=
  let needs := sourcesOf sources e
  ⟨e, none, none, none, false, false, needs, needs, e.hasCorrelated⟩

/-- The terms of a comparison at a place: the condition itself, and the term that starts from the
other side. -/
def comparison (sources : List Nat) (place : Nat) (op : Operator) (l r : Formula Bound) :
    Term × Option Term :=
  let plain := other sources (.binary op l r)
  match Restriction.ofOperator? op with
  | none => (plain, none)
  | some restriction =>
    let needsLeft := sourcesOf sources l
    let needsRight := sourcesOf sources r
    let isSplit := needsLeft.all fun s => !needsRight.contains s
    let keep (r : Restriction) : Option Restriction := if isSplit then some r else none
    let right? : Option ColumnRef :=
      match r.bare with
      | .column c => some c
      | _ => none
    let mirrored := (Restriction.ofOperator? op.exchanged).getD restriction
    match l.bare.column?, right? with
    | some a, none =>
      ({ plain with left? := some a, restriction? := keep restriction, right := needsRight }, none)
    | some a, some b =>
      let isEquivalence := restriction.fixes && areAlike a.affinity? b.affinity?
      ({ plain with
          left? := some a, restriction? := keep restriction, right := needsRight, isEquivalence },
        some { plain with
          formula := .binary op.exchanged r l
          parent? := some place, left? := some b, restriction? := keep mirrored
          right := needsLeft, isEquivalence })
    | none, some b =>
      ({ plain with
          formula := .binary op.exchanged r l
          left? := some b, restriction? := keep mirrored, right := needsLeft }, none)
    | none, none => ({ plain with right := needsRight }, none)

/-- The terms of a condition at a place. -/
def ofFormula (sources : List Nat) (place : Nat) (e : Formula Bound) : Term × Option Term :=
  match e with
  | .binary op l r => comparison sources place op l r
  | .nullTest true a =>
    let t := other sources e
    let left? := a.bare.column?
    if a.bare.canBeNull then
      ({ t with left?, restriction? := left?.map fun _ => .isNull, right := [] }, none)
    else
      ({ t with formula := .literal (.truth false "false"), left?, right := [], needs := [] }, none)
  | .nullTest false a =>
    let t := other sources e
    let presence? :=
      match a.column? with
      | some c =>
        if c.index?.isSome then
          some { t with
            formula := .binary .gt a .null
            parent? := some place, left? := some c, restriction? := some .above
            isPresence := true, right := [] }
        else none
      | none => none
    (t, presence?)
  | _ => (other sources e, none)

/-- The terms of conditions: the conditions themselves first, then what was made from them, from the
last condition to the first. -/
def ofConditions (sources : List Nat) (conditions : List (Formula Bound)) : List Term :=
  let pairs := (conditions.flatMap split).zipIdx.map fun (e, place) => ofFormula sources place e
  pairs.map (·.1) ++ (pairs.map (·.2)).reverse.filterMap id

/-- Whether a comparison treats the values of a column as an index on it does. -/
def suits (affinity? : Option Affinity) (t : Term) : Bool :=
  match t.formula with
  | .binary _ l r =>
    match Formula.comparisonAffinity l.affinity? r.affinity? with
    | none | some .blob => true
    | some .text => affinity? == some .text
    | some _ => affinity?.any isNumeric
  | _ => true

/-- The greatest number of columns that are followed as equal. -/
def maxEqual : Nat := 11

/-- What a term adds to the columns that are known to be equal. -/
def joinEqual (equal : List Place) (t : Term) : List Place :=
  match t.isEquivalence, t.rightSide?.map Formula.bare with
  | true, some (.column c) =>
    if equal.length < maxEqual && !equal.contains c.place then equal ++ [c.place] else equal
  | _, _ => equal

/-- Whether a term only says that a column is equal to a place. -/
def repeats (place : Place) (t : Term) : Bool :=
  t.fixes && (t.rightSide?.bind Formula.column?).any (·.place == place)

/-- The terms that restrict the columns equal to the first one, each with its place and whether it
is about another column than the first one. -/
def scanFrom (terms : List Term) (wanted : Term → Bool) :
    Nat → Nat → List Place → List (Nat × Term × Bool)
  | 0, _, _ => []
  | fuel + 1, k, equal =>
    match equal[k]?, equal.head? with
    | some column, some first =>
      let about := terms.zipIdx.filter fun (t, _) => t.left?.any (·.place == column)
      let found := (about.filter fun (t, _) => wanted t && !t.repeats first).map
        fun (t, i) => (i, t, decide (0 < k))
      found ++ scanFrom terms wanted fuel (k + 1) (about.foldl (fun e (t, _) => joinEqual e t) equal)
    | _, _ => []

/-- The terms that restrict a column, or one that is equal to it. An index has the affinity of its
column. -/
def scan (terms : List Term) (column : Place) (wanted : Restriction → Bool)
    (index? : Option (Option Affinity)) : List (Nat × Term × Bool) :=
  let isWanted (t : Term) : Bool :=
    t.restriction?.any wanted
      && (t.restriction? == some .isNull || index?.all fun affinity? => t.suits affinity?)
  scanFrom terms isWanted maxEqual 0 [column]

/-- The term that restricts a column by what is known of `ready` sources; one that needs none of
them is preferred. -/
def find? (terms : List Term) (column : Place) (ready : List Nat) (wanted : Restriction → Bool)
    (index? : Option (Option Affinity)) : Option (Nat × Term) :=
  let found := (scan terms column wanted index?).filter fun (_, t, _) => within t.right ready
  let constant := found.find? fun (_, t, _) => t.right.isEmpty && t.fixes
  (constant <|> found.head?).map fun (i, t, _) => (i, t)

end Term

end RowCheck.Sql
