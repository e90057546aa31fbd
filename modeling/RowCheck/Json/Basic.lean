import RowCheck.Number.Binary64

/-!
# JSON values

A value as it is kept after reading: numbers are integers of 64 bits or floats, and the members of
an object stand in the order of their keys, one member a key.
-/

namespace RowCheck

/-- A number of a JSON text. -/
inductive JsonNumber where
  | integer (i : Int)
  | float (x : Binary64)
  deriving DecidableEq, Repr

/-- A JSON value. -/
inductive Json where
  | null
  | bool (b : Bool)
  | number (n : JsonNumber)
  | text (s : String)
  | array (items : List Json)
  | object (members : List (String × Json))
  deriving Inhabited

namespace Json

/-- Puts a member among members that are in the order of their keys; an equal key is replaced. -/
def putMember (key : String) (value : Json) : List (String × Json) → List (String × Json)
  | [] => [(key, value)]
  | (k, v) :: rest =>
    if key = k then (key, value) :: rest
    else if key < k then (key, value) :: (k, v) :: rest
    else (k, v) :: putMember key value rest

end Json

end RowCheck
