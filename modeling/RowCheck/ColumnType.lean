import RowCheck.Text.Split

/-!
# Column types and storage affinities

The types that a backend reports for its columns, and the five affinities under which the
in-process engine stores values. A type is mapped to the affinity under which a copy of the column
is declared; the text of a declaration is mapped back to an affinity by the words that it contains.
-/

namespace RowCheck

/-- The type of a result column. -/
inductive ColumnType where
  | smallInt
  | integer
  | bigInt
  | oid
  | real
  | double
  | numeric
  | text
  | varchar
  | char
  | boolean
  | date
  | time
  | timeTz
  | timestamp
  | timestampTz
  | interval
  | json
  | jsonb
  | bytea
  | uuid
  | array (item : ColumnType)
  | unknown (name : String)
  deriving DecidableEq, Repr, Inhabited

/-- How the in-process engine converts values that are stored in a column. -/
inductive Affinity where
  | integer
  | real
  | numeric
  | blob
  | text
  deriving DecidableEq, Repr

namespace Affinity

/-- The word that declares a column of this affinity. -/
def name : Affinity → String
  | .integer => "INTEGER"
  | .real => "REAL"
  | .numeric => "NUMERIC"
  | .blob => "BLOB"
  | .text => "TEXT"

/-- The affinity of a declared type: the first of these word lists that has a word in it. Letter
case does not count. -/
def ofDeclared (declared : List Char) : Affinity :=
  let upper := declared.map Char.toUpper
  let has (word : String) := Text.occurs word.toList upper
  if has "INT" then .integer
  else if has "CHAR" || has "CLOB" || has "TEXT" then .text
  else if has "BLOB" then .blob
  else if has "REAL" || has "FLOA" || has "DOUB" then .real
  else .numeric

/-- A declaration by an affinity's own word has that affinity. -/
theorem ofDeclared_name (a : Affinity) : ofDeclared a.name.toList = a := by
  cases a <;> rfl

end Affinity

namespace ColumnType

/-- The affinity under which a copy of a column is declared. -/
def affinity : ColumnType → Affinity
  | .smallInt | .integer | .bigInt | .oid | .boolean => .integer
  | .real | .double => .real
  | .numeric => .numeric
  | .bytea => .blob
  | _ => .text

/-- The type that the in-process engine reports for a column of an affinity. -/
def ofAffinity : Affinity → ColumnType
  | .integer => .bigInt
  | .text => .text
  | .blob => .bytea
  | .real => .double
  | .numeric => .numeric

/-- The type that the in-process engine reports for a column with this declaration. -/
def ofDeclared (declared : List Char) : ColumnType := ofAffinity (.ofDeclared declared)

theorem affinity_ofAffinity (a : Affinity) : (ofAffinity a).affinity = a := by
  cases a <;> rfl

end ColumnType

end RowCheck
