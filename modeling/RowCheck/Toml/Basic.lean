/-!
# TOML values

The values of a TOML document. A table remembers how it came to be, since that decides whether later
lines of the document may still add to it.
-/

namespace RowCheck

/-- How a table of a document came to be. -/
inductive TableOrigin where
  /-- Written in braces; nothing can be added. -/
  | inline
  /-- Named by a header of its own. -/
  | header
  /-- Named only as a parent in a longer header. -/
  | parent
  /-- Named by a dotted key. -/
  | dotted
  deriving DecidableEq, Repr

/-- A value of a TOML document. -/
inductive Toml where
  | string (s : String)
  | integer (i : Int)
  | float (lexeme : String)
  | boolean (b : Bool)
  | dateTime (lexeme : String)
  | array (items : List Toml)
  | table (origin : TableOrigin) (members : List (String × Toml))
  /-- Tables that share one header in double brackets. -/
  | tables (items : List (List (String × Toml)))
  deriving Inhabited

namespace Toml

/-- The members of a table, in the order of the document. -/
abbrev Members := List (String × Toml)

/-- The value of a key. -/
def get? (key : String) (ms : Members) : Option Toml := ms.lookup key

/-- Gives a key that is there a new value, in its place. -/
def replace (key : String) (v : Toml) (ms : Members) : Members :=
  ms.map fun m => if m.1 = key then (key, v) else m

/-- Leaves a key out. -/
def erase (key : String) (ms : Members) : Members := ms.filter fun m => m.1 ≠ key

/-- Changes the table at a path below a table. Tables on the way that do not exist are made, as
dotted ones if `dotted`, else as parents. A way through a value, an inline table or, for dotted
keys, a table with a header of its own is refused. -/
def changeAt (dotted : Bool) (change : TableOrigin → Members → Option Members) :
    List String → TableOrigin → Members → Option Members
  | [], origin, ms => change origin ms
  | key :: path, _, ms =>
    match get? key ms with
    | none =>
      let origin : TableOrigin := if dotted then .dotted else .parent
      (changeAt dotted change path origin []).map fun t => ms ++ [(key, .table origin t)]
    | some (.table origin t) =>
      if origin = .inline ∨ (dotted ∧ origin = .header) then none
      else (changeAt dotted change path origin t).map fun t => replace key (.table origin t) ms
    | some (.tables items) =>
      match items.getLast? with
      | none => none
      | some t =>
        (changeAt dotted change path .header t).map fun t =>
          replace key (.tables (items.dropLast ++ [t])) ms
    | some _ => none

/-- Adds the value of a dotted key to a table. A key is given once, and a dotted key's table takes
dotted keys only. -/
def addKey (origin : TableOrigin) (path : List String) (key : String) (v : Toml) (ms : Members) :
    Option Members :=
  changeAt true (fun origin t =>
    if (origin == .dotted) == path.isEmpty then none
    else if (get? key t).isSome then none
    else some (t ++ [(key, v)])) path origin ms

end Toml

end RowCheck
