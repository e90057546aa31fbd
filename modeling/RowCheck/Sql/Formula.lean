import RowCheck.Sql.Operation

/-!
# Formulas

Expressions whose names are resolved: a column is a place in the row of a source, which has a number
of its own in the whole statement. Formulas are given for any kind of queries inside them, and all
changes to formulas are made by one traversal.
-/

namespace RowCheck.Sql

/-- A column of a source. -/
structure ColumnRef where
  source : Nat
  /-- The place of the column; none for the row number. -/
  index? : Option Nat
  affinity? : Option Affinity
  /-- Whether it is never `NULL`. -/
  required : Bool
  deriving DecidableEq

namespace ColumnRef

/-- Whether two columns are the same. -/
def same (a b : ColumnRef) : Bool := a.source == b.source && a.index? == b.index?

end ColumnRef

/-- A formula, over a kind of nested queries. -/
inductive Formula (Q : Type) where
  | literal (l : Literal)
  /-- A hexadecimal number that does not fit. -/
  | oversized (written : String) (offset : Nat)
  | column (c : ColumnRef)
  /-- A column that is known to equal a constant. -/
  | fixed (c : ColumnRef) (value : Formula Q)
  /-- What a column of a nested query stands for. -/
  | derived (e : Formula Q)
  /-- The result of an aggregate over the rows of a block, with a number of its own. -/
  | aggregate (owner serial : Nat) (name : Name) (fn : AggregateFunction) (distinct : Bool)
      (args : List (Formula Q))
  | negate (e : Formula Q)
  | plus (e : Formula Q)
  | not (e : Formula Q)
  /-- Whether a value is `NULL`, or whether it is not. -/
  | nullTest (isNull : Bool) (e : Formula Q)
  /-- Whether a value is true, or false, or whether it is not so. -/
  | truthTest (negated truth : Bool) (e : Formula Q)
  | binary (op : Operator) (l r : Formula Q)
  | cast (e : Formula Q) (type : String)
  | call (fn : ScalarFunction) (args : List (Formula Q))
  /-- Several values side by side, which can only be compared with as many others. -/
  | row (items : List (Formula Q))
  /-- The value of a query, which may look at the sources around it. -/
  | query (q : Q) (correlated : Bool) (affinity? : Option Affinity)

namespace Formula

variable {Q R : Type}

/-- The constant `NULL`. -/
def null : Formula Q := .literal .null

section Traverse

variable {m : Type → Type} [Monad m] (onColumn : ColumnRef → m (Formula R)) (onQuery : Q → m R)

mutual

/-- A formula in which every column that is not fixed, and every query, is replaced. -/
def traverse : Formula Q → m (Formula R)
  | .literal l => return .literal l
  | .oversized written offset => return .oversized written offset
  | .column c => onColumn c
  | .fixed c v => do return .fixed c (← traverse v)
  | .derived e => do return .derived (← traverse e)
  | .aggregate owner serial name fn distinct args => do
    return .aggregate owner serial name fn distinct (← traverseAll args)
  | .negate e => do return .negate (← traverse e)
  | .plus e => do return .plus (← traverse e)
  | .not e => do return .not (← traverse e)
  | .nullTest isNull e => do return .nullTest isNull (← traverse e)
  | .truthTest negated truth e => do return .truthTest negated truth (← traverse e)
  | .binary op l r => do
    let l ← traverse l
    return .binary op l (← traverse r)
  | .cast e type => do return .cast (← traverse e) type
  | .call fn args => do return .call fn (← traverseAll args)
  | .row items => do return .row (← traverseAll items)
  | .query q correlated affinity? => do return .query (← onQuery q) correlated affinity?

/-- Several formulas, each traversed. -/
def traverseAll : List (Formula Q) → m (List (Formula R))
  | [] => return []
  | e :: es => do
    let e ← traverse e
    return e :: (← traverseAll es)

end

end Traverse

/-- The operands of a formula. -/
def operands : Formula Q → List (Formula Q)
  | .literal _ | .oversized _ _ | .column _ | .query _ _ _ => []
  | .fixed _ e | .derived e | .negate e | .plus e | .not e | .nullTest _ e | .truthTest _ _ e
  | .cast e _ => [e]
  | .aggregate _ _ _ _ _ args | .call _ args | .row args => args
  | .binary _ l r => [l, r]

section Collect

variable {α : Type} (here : Formula Q → List α)

mutual

/-- What `here` finds in a formula and in all its parts, from left to right. -/
def collect : Formula Q → List α
  | .literal l => here (.literal l)
  | .oversized written offset => here (.oversized written offset)
  | .column c => here (.column c)
  | .query q correlated affinity? => here (.query q correlated affinity?)
  | .fixed c e => here (.fixed c e) ++ collect e
  | .derived e => here (.derived e) ++ collect e
  | .negate e => here (.negate e) ++ collect e
  | .plus e => here (.plus e) ++ collect e
  | .not e => here (.not e) ++ collect e
  | .nullTest isNull e => here (.nullTest isNull e) ++ collect e
  | .truthTest negated truth e => here (.truthTest negated truth e) ++ collect e
  | .cast e type => here (.cast e type) ++ collect e
  | .aggregate owner serial name fn distinct args =>
    here (.aggregate owner serial name fn distinct args) ++ collectAll args
  | .call fn args => here (.call fn args) ++ collectAll args
  | .row items => here (.row items) ++ collectAll items
  | .binary op l r => here (.binary op l r) ++ (collect l ++ collect r)

/-- What `here` finds in several formulas. -/
def collectAll : List (Formula Q) → List α
  | [] => []
  | e :: es => collect e ++ collectAll es

end

end Collect

/-- The queries in a formula. -/
def queries (e : Formula Q) : List Q :=
  e.collect fun
    | .query q _ _ => [q]
    | _ => []

/-- The columns of a formula, without those in its queries and without fixed ones. -/
def columns (e : Formula Q) : List ColumnRef :=
  e.collect fun
    | .column c => [c]
    | _ => []

/-- Whether some part of a formula is of a kind. -/
def hasPart (isKind : Formula Q → Bool) (e : Formula Q) : Bool :=
  !(e.collect fun e => if isKind e then [()] else []).isEmpty

/-- Whether there is a query in a formula. -/
def hasQuery (e : Formula Q) : Bool :=
  e.hasPart fun
    | .query .. => true
    | _ => false

/-- Whether there is a query in a formula that looks at the sources around it. -/
def hasCorrelated (e : Formula Q) : Bool :=
  e.hasPart fun
    | .query _ correlated _ => correlated
    | _ => false

/-- Whether a formula has the same value for all rows, so that it can be told without them. -/
def isConstant (e : Formula Q) : Bool :=
  !e.hasPart fun
    | .column _ | .query .. | .aggregate .. => true
    | _ => false

/-- Whether a formula is a constant that counts as true or false. -/
def decided? : Formula Q → Option Bool
  | .literal l => l.decided?
  | _ => none

/-- Whether a formula is the constant `NULL`. -/
def isNullLiteral : Formula Q → Bool
  | .literal l => l == .null
  | _ => false

/-- The whole number of 32 bits that a formula spells. -/
def integer? : Formula Q → Option Int
  | .literal l => l.whole?
  | .plus e => e.integer?
  | .negate e => e.integer?.map (- ·)
  | _ => none

/-- A formula without what says that it comes from a nested query. -/
def bare : Formula Q → Formula Q
  | .derived e => e.bare
  | e => e

/-- The affinity of a formula: that of the column or of the conversion that it is. -/
def affinity? : Formula Q → Option Affinity
  | .column c | .fixed c _ => c.affinity?
  | .derived e => e.affinity?
  | .cast _ type => some (.ofDeclared type.toList)
  | .query _ _ affinity? => affinity?
  | _ => none

/-- The affinity to which the sides of a comparison are converted. -/
def comparisonAffinity : Option Affinity → Option Affinity → Option Affinity
  | some a, some b => if isNumeric a || isNumeric b then some .numeric else none
  | some a, none | none, some a => some a
  | none, none => none

/-- The affinity to which an operator converts its sides. -/
def operatorAffinity (op : Operator) (l r : Formula Q) : Option Affinity :=
  if op.isComparison then comparisonAffinity l.affinity? r.affinity? else none

/-- Whether a formula may be `NULL`, as far as its form tells. -/
def canBeNull : Formula Q → Bool
  | .plus e | .negate e => e.canBeNull
  | .literal l => l.value = .null
  | .column c | .fixed c _ => !c.required
  | _ => true

/-- The column that a formula is, fixed or not. -/
def column? : Formula Q → Option ColumnRef
  | .column c | .fixed c _ => some c
  | _ => none

mutual

/-- Whether two formulas are the same; queries never are. -/
def same : Formula Q → Formula Q → Bool
  | .derived a, b => same a b
  | .literal l, b =>
    match b.bare with
    | .literal l' => l.same l'
    | _ => false
  | .column c, b | .fixed c _, b => b.bare.column?.any c.same
  | .aggregate owner _ _ fn distinct args, b =>
    match b.bare with
    | .aggregate owner' _ _ fn' distinct' args' =>
      owner == owner' && fn = fn' && distinct == distinct' && sameAll args args'
    | _ => false
  | .negate a, b =>
    match b.bare with
    | .negate b => same a b
    | _ => false
  | .plus a, b =>
    match b.bare with
    | .plus b => same a b
    | _ => false
  | .not a, b =>
    match b.bare with
    | .not b => same a b
    | _ => false
  | .nullTest isNull a, b =>
    match b.bare with
    | .nullTest isNull' b => isNull == isNull' && same a b
    | _ => false
  | .truthTest negated truth a, b =>
    match b.bare with
    | .truthTest negated' truth' b => negated == negated' && truth == truth' && same a b
    | _ => false
  | .binary op l r, b =>
    match b.bare with
    | .binary op' l' r' => op = op' && same l l' && same r r'
    | _ => false
  | .cast a type, b =>
    match b.bare with
    | .cast b type' => type == type' && same a b
    | _ => false
  | .call fn args, b =>
    match b.bare with
    | .call fn' args' => fn = fn' && sameAll args args'
    | _ => false
  | .row items, b =>
    match b.bare with
    | .row items' => sameAll items items'
    | _ => false
  | .oversized _ _, _ | .query _ _ _, _ => false

/-- Whether the formulas of two lists are the same. -/
def sameAll : List (Formula Q) → List (Formula Q) → Bool
  | [], [] => true
  | a :: as, b :: bs => same a b && sameAll as bs
  | _, _ => false

end

end Formula

end RowCheck.Sql
