import RowCheck.Config.Profile
import RowCheck.Text.Blank

/-!
# Connection strings of keys and values

Pairs `key=value` between blanks. A value is a bare word or stands in single quotes, and in either
a backslash takes the next character as it is. A profile is written with every value in quotes. The
reader goes over a string one character at a time and knows the grammar as a whole.
-/

namespace RowCheck.Config.Libpq

/-- How a character stands inside a quoted value. -/
def escapeChar (c : Char) : List Char := if c = '\\' ∨ c = '\'' then ['\\', c] else [c]

/-- A value in quotes. -/
def quotedValue (s : List Char) : List Char := '\'' :: s.flatMap escapeChar ++ ['\'']

/-- A list of pairs as a connection string. -/
def render (pairs : List (List Char × List Char)) : List Char :=
  [' '].intercalate (pairs.map fun p => p.1 ++ '=' :: quotedValue p.2)

/-- A text with another text in the place of every `c`. -/
def replace (c : Char) (part : List Char) (s : List Char) : List Char :=
  s.flatMap fun x => if x = c then part else [x]

/-- Escaping is done by first doubling the backslashes and then putting one before each quote. -/
theorem flatMap_escapeChar (s : List Char) :
    s.flatMap escapeChar = replace '\'' ['\\', '\''] (replace '\\' ['\\', '\\'] s) := by
  rw [replace, replace, List.flatMap_assoc]
  congr 1
  funext c
  by_cases backslash : c = '\\'
  · subst backslash
    rfl
  · by_cases quote : c = '\''
    · subst quote
      rfl
    · simp [escapeChar, backslash, quote]

/-- Where in a connection string a reader is. -/
inductive Place where
  /-- Before a key. -/
  | gap
  /-- In a key. -/
  | key (k : List Char)
  /-- Behind a key and a blank. -/
  | sign (k : List Char)
  /-- Behind an equals sign. -/
  | start (k : List Char)
  /-- In a value, within quotes or not. -/
  | value (inQuotes : Bool) (k v : List Char)
  /-- In a value, behind a backslash. -/
  | escape (inQuotes : Bool) (k v : List Char)
  /-- Behind a closing quote. -/
  | closed
  deriving DecidableEq, Repr

/-- What a reader knows: the pairs that it has read, and where it is. -/
structure Reading where
  pairs : List (List Char × List Char)
  place : Place
  deriving DecidableEq, Repr

namespace Reading

/-- Takes one more character into account; nothing if it cannot stand there. -/
def step (r : Reading) (c : Char) : Option Reading :=
  match r.place with
  | .gap =>
    if Text.isBlank c then some r
    else if c = '=' then none
    else some { r with place := .key [c] }
  | .key k =>
    if c = '=' then some { r with place := .start k }
    else if Text.isBlank c then some { r with place := .sign k }
    else some { r with place := .key (k ++ [c]) }
  | .sign k =>
    if Text.isBlank c then some r
    else if c = '=' then some { r with place := .start k }
    else none
  | .start k =>
    if Text.isBlank c then some r
    else if c = '\'' then some { r with place := .value true k [] }
    else if c = '\\' then some { r with place := .escape false k [] }
    else some { r with place := .value false k [c] }
  | .value inQuotes k v =>
    if c = '\\' then some { r with place := .escape inQuotes k v }
    else if inQuotes ∧ c = '\'' then some ⟨r.pairs ++ [(k, v)], .closed⟩
    else if ¬ inQuotes ∧ Text.isBlank c then some ⟨r.pairs ++ [(k, v)], .gap⟩
    else some { r with place := .value inQuotes k (v ++ [c]) }
  | .escape inQuotes k v => some { r with place := .value inQuotes k (v ++ [c]) }
  | .closed => if Text.isBlank c then some { r with place := .gap } else none

/-- The pairs of a string that ends here; nothing if it must not end here. -/
def finish (r : Reading) : Option (List (List Char × List Char)) :=
  match r.place with
  | .gap | .closed => some r.pairs
  | .value false k v => some (r.pairs ++ [(k, v)])
  | .key _ | .sign _ | .start _ | .value true _ _ | .escape .. => none

end Reading

/-- The pairs of a connection string, in their order; nothing if it is not one. -/
def read? (s : List Char) : Option (List (List Char × List Char)) :=
  (s.foldlM Reading.step ⟨[], .gap⟩).bind Reading.finish

/-- A key and its value as characters. -/
def charsOf (pair : String × String) : List Char × List Char := (pair.1.toList, pair.2.toList)

/-- A key and its value as texts. -/
def textsOf (pair : List Char × List Char) : String × String :=
  (String.ofList pair.1, String.ofList pair.2)

theorem textsOf_charsOf (pair : String × String) : textsOf (charsOf pair) = pair := by
  simp [textsOf, charsOf]

end RowCheck.Config.Libpq

namespace RowCheck.Config

/-- The settings of a connection, in the order in which they are written. -/
def Profile.pairs (p : Profile) : List (String × String) :=
  [("host", p.host), ("port", String.ofList (Text.decimal p.port.toNat)), ("dbname", p.database),
    ("user", p.username), ("sslmode", p.sslMode.word)]
    ++ p.password?.toList.map fun w => ("password", w)

/-- The connection string of a profile, every value in quotes. -/
def Profile.libpq (p : Profile) : String :=
  String.ofList (Libpq.render (p.pairs.map Libpq.charsOf))

/-- The settings that a connection string names, in their order. -/
def Libpq.settings? (s : String) : Option (List (String × String)) :=
  (read? s.toList).map (·.map textsOf)

end RowCheck.Config
