import RowCheck.Sql.Value
import RowCheck.Sql.Token

/-!
# Statements

The statements of the engine as they are written. Names keep their offset, for the errors that
point at them. Expressions are given for any kind of nested query, which is then tied to queries
themselves.
-/

namespace RowCheck.Sql

/-- A name in a statement. -/
structure Name where
  text : String
  /-- The name as it is written. -/
  written : String
  /-- Whether it stands in double quotes, where it may turn out to be a text. -/
  doubleQuoted : Bool
  offset : Nat
  deriving DecidableEq

/-- Whether a name is the word for a truth value. -/
def Name.isTruthWord (n : Name) : Bool :=
  n.written == n.text && ["true", "false"].contains (String.ofList (Token.lower n.text.toList))

/-- The operators between two expressions. -/
inductive Operator where
  | or | and
  | eq | ne | is | isNot
  | lt | le | gt | ge
  | add | sub | mul | div | rem
  | concat
  deriving DecidableEq

/-- What a constant is known by. -/
inductive Mark where
  /-- Its value: it is a whole number of 32 bits. -/
  | small
  /-- Its value: it is the outcome of a test that can be told beforehand. -/
  | known
  /-- A word for a truth value. -/
  | truth (written : String)
  /-- Its text. -/
  | text (written : String)
  deriving DecidableEq

/-- A constant in a statement. -/
structure Literal where
  value : Value
  /-- What it is behind a minus sign, if it is a number. -/
  minus? : Option Value
  mark : Mark
  deriving DecidableEq

namespace Literal

/-- The constant `NULL`. -/
def null : Literal := ⟨.null, none, .text ""⟩

/-- A small whole number. -/
def small (n : Nat) : Literal := ⟨.int (.ofNat n), some (.ofInt (-n)), .small⟩

/-- A text as a constant. -/
def ofText (text : List Char) : Literal :=
  ⟨.text (Text.Utf8.encode text), none, .text (String.ofList text)⟩

/-- A truth value as a constant. -/
def truth (b : Bool) (written : String) : Literal := ⟨.ofBool b, none, .truth written⟩

/-- The outcome of a test. -/
def known (b : Bool) : Literal := ⟨.ofBool b, some (.ofInt (if b then -1 else 0)), .known⟩

/-- A parameter, to which no value is given. -/
def parameter : Literal := ⟨.null, none, .text "?"⟩

/-- Whether a constant is a word for a truth value. -/
def isTruth (l : Literal) : Bool :=
  match l.mark with
  | .truth _ => true
  | _ => false

/-- The whole number that a constant is known by. -/
def whole? (l : Literal) : Option Int :=
  match l.value, l.mark with
  | .int i, .small | .int i, .known => some i.toInt
  | _, _ => none

/-- Whether a constant is true or false as it is written. -/
def decided? (l : Literal) : Option Bool :=
  match l.value, l.mark with
  | .int i, .small | .int i, .truth _ => some (i ≠ 0)
  | _, _ => none

/-- Whether two constants are the same. -/
def same (a b : Literal) : Bool :=
  match a.whole?, b.whole? with
  | some i, some j => i == j
  | none, none => a == b
  | _, _ => false

end Literal

/-- An expression, over a kind of nested queries. -/
inductive Expr (Q : Type) where
  | literal (l : Literal) (offset : Nat)
  /-- A hexadecimal number that does not fit. -/
  | oversized (written : String) (offset : Nat)
  /-- A column, after the names of its table and schema if they are given. -/
  | column (path : List Name)
  /-- A value to be given, with its number if that is written. -/
  | parameter (number? : Option Nat) (offset : Nat)
  | negate (e : Expr Q)
  | plus (e : Expr Q)
  | not (e : Expr Q)
  | binary (op : Operator) (l r : Expr Q)
  | cast (e : Expr Q) (type : String)
  /-- A call; `star` stands for all rows. -/
  | call (fn : Name) (star distinct : Bool) (args : List (Expr Q))
  /-- Several values side by side. -/
  | row (items : List (Expr Q))
  | query (q : Q) (offset : Nat)

namespace Expr

variable {Q : Type}

/-- Whether an expression is a zero that is written as a whole number without a sign. -/
def isZero : Expr Q → Bool
  | .literal l _ => l.decided? = some false
  | _ => false

/-- An operator between two expressions. A conjunction with a zero is a zero, whatever the other
side is; it has no place in the statement. -/
def operation (op : Operator) (l r : Expr Q) : Expr Q :=
  if op = .and && (l.isZero || r.isZero) then .literal (.small 0) 0 else .binary op l r

/-- An expression behind a minus sign, which takes the place of a plus sign. -/
def negated : Expr Q → Expr Q
  | .plus e => .negate e
  | e => .negate e

/-- An expression behind a plus sign. -/
def unchanged : Expr Q → Expr Q
  | .plus e => .plus e
  | e => .plus e

/-- The whole number of 32 bits that an expression spells, with its place. -/
def integer? : Expr Q → Option (Int × Nat)
  | .literal l offset => l.whole?.map (·, offset)
  | .plus e => e.integer?
  | .negate e => e.integer?.map fun (i, offset) => (-i, offset)
  | _ => none

mutual

/-- How deep an expression is, given how deep the queries in it are. -/
def height (ofQuery : Q → Nat) : Expr Q → Nat
  | .literal .. | .oversized .. | .parameter .. => 1
  | .column path => path.length
  | .negate e | .plus e | .not e | .cast e _ => height ofQuery e + 1
  | .binary _ l r => max (height ofQuery l) (height ofQuery r) + 1
  | .call _ _ _ args | .row args => heightOfAll ofQuery args + 1
  | .query q _ => ofQuery q + 1

/-- The greatest of several depths. -/
def heightOfAll (ofQuery : Q → Nat) : List (Expr Q) → Nat
  | [] => 0
  | e :: es => max (height ofQuery e) (heightOfAll ofQuery es)

end

/-- Whether a call is one of a function of single values. -/
def isScalarCall (fn : Name) (count : Nat) : Bool :=
  match String.ofList (Token.lower fn.text.toList), count with
  | "abs", 1 | "char", _ | "max", _ + 2 | "min", _ + 2 => true
  | _, _ => false

mutual

/-- Whether an expression is a constant as it is written: there is no name in it. -/
def isConstant : Expr Q → Bool
  | .literal .. | .oversized .. | .parameter .. => true
  | .column [n] => n.isTruthWord
  | .column _ | .query .. => false
  | .negate e | .plus e | .not e | .cast e _ => isConstant e
  | .binary _ l r => isConstant l && isConstant r
  | .call fn _ _ args => isScalarCall fn args.length && areConstant args
  | .row items => areConstant items

/-- Whether several expressions are constants. -/
def areConstant : List (Expr Q) → Bool
  | [] => true
  | e :: es => isConstant e && areConstant es

end

mutual

/-- The queries in an expression, from left to right. -/
def queries : Expr Q → List Q
  | .literal .. | .oversized .. | .parameter .. | .column _ => []
  | .negate e | .plus e | .not e | .cast e _ => queries e
  | .binary _ l r => queries l ++ queries r
  | .call _ _ _ args | .row args => queriesOfAll args
  | .query q _ => [q]

/-- The queries in several expressions. -/
def queriesOfAll : List (Expr Q) → List Q
  | [] => []
  | e :: es => queries e ++ queriesOfAll es

end

mutual

/-- Whether there is a call or a query in an expression. -/
def isComplex : Expr Q → Bool
  | .literal .. | .oversized .. | .parameter .. | .column _ => false
  | .negate e | .plus e | .not e | .cast e _ => isComplex e
  | .binary _ l r => isComplex l || isComplex r
  | .row items => areComplex items
  | .call .. | .query .. => true

/-- Whether there is a call or a query in one of several expressions. -/
def areComplex : List (Expr Q) → Bool
  | [] => false
  | e :: es => isComplex e || areComplex es

end

mutual

/-- An expression in which the words for truth values are constants. -/
def withTruth : Expr Q → Expr Q
  | .column [n] =>
    if n.isTruthWord then
      .literal (.truth (String.ofList (Token.lower n.text.toList) == "true") n.text) n.offset
    else .column [n]
  | .negate e => .negate (withTruth e)
  | .plus e => .plus (withTruth e)
  | .not e => .not (withTruth e)
  | .binary op l r => .binary op (withTruth l) (withTruth r)
  | .cast e type => .cast (withTruth e) type
  | .call fn star distinct args => .call fn star distinct (withTruthAll args)
  | .row items => .row (withTruthAll items)
  | e => e

/-- Several expressions in which the words for truth values are constants. -/
def withTruthAll : List (Expr Q) → List (Expr Q)
  | [] => []
  | e :: es => withTruth e :: withTruthAll es

end

/-- The place of an expression: that of the leftmost name, constant or call in it. A row has none.
-/
def place : Expr Q → Nat
  | .literal _ offset | .oversized _ offset | .parameter _ offset => offset
  | .column path => path.head?.elim 0 Name.offset
  | .negate e | .plus e | .not e | .cast e _ => place e
  | .binary _ l _ => place l
  | .call fn .. => fn.offset
  | .row .. | .query .. => 0

end Expr

/-- An item of a result. -/
inductive Item (Q : Type) where
  | all
  | allOf (table : Name)
  /-- An expression with its own name, if it has one, and its text. -/
  | expr (e : Expr Q) (alias? : Option String) (text : String)

/-- A table in a statement. -/
structure Target where
  schema? : Option Name
  table : Name
  deriving DecidableEq

/-- Where rows come from. -/
inductive SourceTerm (Q : Type) where
  | table (target : Target) (alias? : Option String)
  /-- A table that is called as if it were a function, which none is. -/
  | call (target : Target) (alias? : Option String)
  | query (q : Q) (alias? : Option String)

/-- A source of rows, and the condition under which it is joined to those before it. A crossed
source stays behind them. -/
structure Joined (Q : Type) where
  source : SourceTerm Q
  crossed : Bool
  on? : Option (Expr Q)

/-- One member of a compound query. -/
inductive Member (Q : Type) where
  | select (distinct : Bool) (items : List (Item Q)) (sources : List (Joined Q))
      (filter? : Option (Expr Q)) (groupBy : List (Expr Q)) (having? : Option (Expr Q))
  /-- A list of rows; all of them are constants if there are several. -/
  | values (rows : List (List (Expr Q)))

/-- How two members are put together. -/
inductive SetOperator where
  | union
  | unionAll
  | intersect
  | except
  deriving DecidableEq

/-- The keyword of a set operator. -/
def SetOperator.keyword : SetOperator → String
  | .union => "UNION"
  | .unionAll => "UNION ALL"
  | .intersect => "INTERSECT"
  | .except => "EXCEPT"

/-- A term by which rows are ordered. -/
structure OrderTerm (Q : Type) where
  expr : Expr Q
  descending : Bool

/-- Members put together from left to right, an order, and a window of rows. -/
structure Compound (Q : Type) where
  first : Member Q
  others : List (SetOperator × Member Q)
  orderBy : List (OrderTerm Q)
  limit? : Option (Expr Q)
  offset? : Option (Expr Q)

namespace Member

variable {Q : Type}

/-- The expressions of a member whose depth counts. -/
def expressions : Member Q → List (Expr Q)
  | .select _ items _ filter? groupBy having? =>
    (items.filterMap fun
      | .expr e _ _ => some e
      | _ => none) ++ filter?.toList ++ groupBy ++ having?.toList
  | .values rows => rows.flatten

end Member

/-- How deep a compound query is: the depth of its expressions, without those that join sources. -/
def Compound.height {Q : Type} (ofQuery : Q → Nat) (c : Compound Q) : Nat :=
  let window := c.limit?.toList ++ c.offset?.toList
  max (Expr.heightOfAll ofQuery ((c.first :: c.others.map (·.2)).flatMap Member.expressions
      ++ c.orderBy.map OrderTerm.expr))
    (if window.isEmpty then 0 else Expr.heightOfAll ofQuery window + 1)

/-- A query. -/
inductive Query where
  | mk (compound : Compound Query) (height : Nat)

namespace Query

/-- The compound that a query is. -/
def compound : Query → Compound Query
  | .mk c _ => c

/-- How deep a query is. -/
def height : Query → Nat
  | .mk _ h => h

/-- A compound as a query. -/
def ofCompound (c : Compound Query) : Query := .mk c (c.height height)

end Query

/-- What stands for a column in the key of a constraint. -/
inductive KeyPart where
  | column (name : Name)
  /-- A column with the name of its table. -/
  | path (first : Name)
  /-- Some other expression. -/
  | other
  deriving DecidableEq

/-- A column of the key of a constraint. -/
structure KeyColumn where
  part : KeyPart
  descending : Bool
  deriving DecidableEq

/-- A part of the definition of a table. Constraints without a key are about the column before them.
-/
inductive TableClause where
  | column (name : String) (declared? : Option String)
  | notNull
  | default (v : Value)
  /-- The primary key of a table. With `autoincrement`, no row number is ever given again. -/
  | primaryKey (key? : Option (List KeyColumn)) (descending autoincrement : Bool)
  | unique (key? : Option (List KeyColumn))
  deriving DecidableEq

/-- A fault in the form of a statement. -/
inductive SyntaxFault where
  | unexpected (token : Token)
  | incomplete
  | unrecognized (token : Token)
  /-- An underscore that does not stand between digits; the text up to it has lost its underscores.
  -/
  | separator (text : String)
  /-- A clause stands before an operator between two queries instead of behind all of them. -/
  | misplaced (clause : String) (op : SetOperator)
  /-- A condition behind a source that is not joined to another one. -/
  | joinRequired
  | tooDeep
  | tooManyArguments (fn : Name)
  | tooManyMembers
  /-- A row of constants that is longer or shorter than those before it. -/
  | unevenRows
  /-- A word behind the columns of a new table. -/
  | unknownOption (token : Token)
  deriving DecidableEq

/-- The greatest depth of an expression. -/
def maxDepth : Nat := 1000

/-- The greatest number of arguments of a call. -/
def maxArguments : Nat := 127

/-- The greatest number of members of a compound query. -/
def maxMembers : Nat := 500

/-- What an insertion puts into a table. -/
inductive Inserted where
  | rows (q : Query)
  /-- One row of defaults. -/
  | defaults

/-- A statement. -/
inductive Statement where
  /-- No statement at all. -/
  | nothing
  | query (q : Query)
  | insert (target : Target) (alias? : Option String) (columns? : Option (List String))
      (rows : Inserted)
  | update (target : Target) (alias? : Option String) (changes : List (Name × Expr Query))
      (filter? : Option (Expr Query))
  | delete (target : Target) (alias? : Option String) (filter? : Option (Expr Query))
  /-- A new table. The fault is one that follows the clauses read so far: the engine looks at the
  table's name and at these clauses before it comes to the fault. -/
  | createTable (temporary ifNotExists : Bool) (target : Target) (clauses : List TableClause)
      (fault? : Option SyntaxFault)
  /-- A new table with the rows of a query. -/
  | createTableAs (temporary ifNotExists : Bool) (target : Target) (q : Query)
  | dropTable (ifExists : Bool) (target : Target)
  | attach (name : String)
  | begin
  | commit
  | rollback

end RowCheck.Sql
