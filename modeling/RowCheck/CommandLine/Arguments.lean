import RowCheck.Backend
import RowCheck.CommandLine.Shorthand
import RowCheck.Text.Split

/-!
# Arguments

What a list of arguments asks for. Options stand anywhere before `--`, each at most once, and their
values follow them behind `=` or as the next argument. One argument that is no option is the query.
-/

namespace RowCheck.CommandLine

/-- What is wanted of a query. -/
inductive Goal where
  /-- That it does not fail. -/
  | runs
  /-- Its rows in canonical form. -/
  | prints
  /-- That it returns this canonical text. -/
  | returns (expected : String)
  /-- That it fails with this text in the trace. -/
  | throws (expected : String)
  deriving DecidableEq, Repr

/-- A query to be checked. -/
structure Request where
  backend : Backend
  goal : Goal
  sql : String
  deriving DecidableEq, Repr

/-- What the program is asked for. -/
inductive Command where
  | help
  | version
  | check (request : Request)
  deriving DecidableEq, Repr

/-- The arguments that have been read. -/
structure Arguments where
  backend? : Option Backend
  expect? : Option String
  expectError? : Option String
  print : Bool
  sql? : Option String
  deriving DecidableEq, Repr

/-- The options that have a value. -/
inductive OptionName where
  | config
  | expect
  | expectError
  deriving DecidableEq, Repr

namespace Arguments

/-- No arguments. -/
def none : Arguments := ⟨.none, .none, .none, false, .none⟩

/-- Gives an option its value, if it has none yet. -/
def put (a : Arguments) (name : OptionName) (value : String) : Option Arguments :=
  match name with
  | .config =>
    if a.backend?.isSome then .none
    else (Backend.ofName? value).map fun b => { a with backend? := some b }
  | .expect => if a.expect?.isSome then .none else some { a with expect? := some value }
  | .expectError =>
    if a.expectError?.isSome then .none else some { a with expectError? := some value }

/-- Sets the flag for printing, if it is not set yet. -/
def setPrint (a : Arguments) : Option Arguments :=
  if a.print then .none else some { a with print := true }

/-- Takes the query, if there is none yet. -/
def putSql (a : Arguments) (sql : String) : Option Arguments :=
  if a.sql?.isSome then .none else some { a with sql? := some sql }

/-- What is asked for, if the arguments go together. -/
def finish (a : Arguments) : Option Command := do
  let sql ← a.sql?
  let goal ←
    match a.expect?, a.expectError?, a.print with
    | .none, .none, false => some Goal.runs
    | .none, .none, true => some Goal.prints
    | some expected, .none, false => some (Goal.returns (Shorthand.unescape expected))
    | .none, some expected, false => some (Goal.throws expected)
    | _, _, _ => .none
  return .check ⟨a.backend?.getD .regular, goal, sql⟩

/-- An argument as it is looked at. -/
inductive Shape where
  /-- The end of all options. -/
  | separator
  /-- A long name and the value behind `=`. -/
  | long (name : String) (value? : Option String)
  /-- What stands behind a single hyphen. -/
  | short (letters : List Char)
  | plain

/-- The shape of an argument. -/
def shape (arg : String) : Shape :=
  match arg.toList with
  | ['-', '-'] => .separator
  | '-' :: '-' :: r =>
    match Text.cutFirst '=' r with
    | some (name, value) => .long (String.ofList name) (some (String.ofList value))
    | .none => .long (String.ofList r) .none
  | '-' :: c :: r => .short (c :: r)
  | _ => .plain

/-- The option of a long name. -/
def optionNamed? (name : String) : Option OptionName :=
  if name = "config" then some .config
  else if name = "expect" then some .expect
  else if name = "expect-error" then some .expectError
  else .none

/-- Whether an argument can be the value of an option before it. -/
def isValue (arg : String) : Bool :=
  match shape arg with
  | .plain => true
  | _ => false

/-- What the arguments ask for, after some that have been read; nothing if they are wrong. -/
def read (a : Arguments) : List String → Option Command
  | [] => a.finish
  | arg :: rest =>
    match shape arg with
    | .plain => do read (← a.putSql arg) rest
    | .separator => do (← rest.foldlM putSql a).finish
    | .short ('h' :: _) => some .help
    | .short ('V' :: _) => some .version
    | .short ('c' :: r) =>
      match r with
      | [] => readValue a .config rest
      | '=' :: value => do read (← a.put .config (String.ofList value)) rest
      | value => do read (← a.put .config (String.ofList value)) rest
    | .short _ => .none
    | .long name value? =>
      match optionNamed? name, value? with
      | some option, some value => do read (← a.put option value) rest
      | some option, .none => readValue a option rest
      | .none, some _ => .none
      | .none, .none =>
        if name = "print" then do read (← a.setPrint) rest
        else if name = "help" then some .help
        else if name = "version" then some .version
        else .none
where
  /-- Takes the value of an option from the next argument. -/
  readValue (a : Arguments) (name : OptionName) : List String → Option Command
    | [] => .none
    | value :: rest => if isValue value then do read (← a.put name value) rest else .none

end Arguments

/-- What a list of arguments asks for; nothing if it is wrong. -/
def Command.ofArguments? (args : List String) : Option Command := Arguments.none.read args

end RowCheck.CommandLine
