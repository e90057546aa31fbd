import RowCheck.Config.Error

/-!
# Named backends

The closed set of backends that a query can be run against.
-/

namespace RowCheck

/-- A named backend. -/
inductive Backend where
  /-- The in-process engine with the fixture data. -/
  | regular
  /-- The external server, its values read through prepared statements. -/
  | foodmart
  /-- The external server, queries sent to it as they are. -/
  | foodmartNative
  /-- A local copy of the external server's tables. -/
  | foodmartClone
  deriving DecidableEq, Repr

namespace Backend

/-- Every backend. -/
def all : List Backend := [.regular, .foodmart, .foodmartNative, .foodmartClone]

/-- The name of a backend. -/
def name : Backend → String
  | .regular => "regular"
  | .foodmart => "foodmart"
  | .foodmartNative => "foodmart-native"
  | .foodmartClone => "foodmart-clone"

/-- Whether a backend needs the external server. -/
def isExternal (b : Backend) : Bool := b != .regular

/-- The backend of a name; letter case counts. -/
def ofName? (s : String) : Option Backend := all.find? fun b => b.name == s

/-- The backend of a name, or the error that there is none. -/
def parse (s : String) : Except Config.Error Backend :=
  match ofName? s with
  | some b => .ok b
  | none => .error (.invalid s!"unknown configuration '{s}'")

/-- Each backend is found by its name. -/
theorem ofName?_name (b : Backend) : ofName? b.name = some b := by cases b <;> decide

end Backend

end RowCheck
