import RowCheck.Assertion
import RowCheck.CommandLine.Arguments

/-!
# Running the program

What the program writes and the code with which it ends: 0 if all is well, 1 for a failed
assertion, 2 for wrong arguments.
-/

namespace RowCheck.CommandLine

/-- What the program leaves behind. -/
structure Output where
  code : UInt8
  stdout : String
  stderr : String
  deriving DecidableEq, Repr

/-- The line that names the program and its version. -/
def versionLine : String := "queryassert 0.1.0\n"

/-- How the program is called. -/
def usageLine : String := "Usage: queryassert [OPTIONS] <SQL>\n"

/-- The page of help. -/
def helpPage : String :=
  "Check one query against a configured backend\n\n" ++ usageLine ++ "\n"
    ++ "Arguments:\n  <SQL>  Query text\n\nOptions:\n"
    ++ "  -c, --config <CONFIG>              Backend to run against [default: regular]"
    ++ " [possible values: " ++ ", ".intercalate (Backend.all.map Backend.name) ++ "]\n"
    ++ "      --expect <EXPECT>              Expected rows, exactly (\\n separates rows)\n"
    ++ "      --expect-error <EXPECT_ERROR>  Text the failure message must contain\n"
    ++ "      --print                        Print the rows in canonical form instead of"
    ++ " checking them\n"
    ++ "  -h, --help                         Print help\n"
    ++ "  -V, --version                      Print version\n"

/-- What is written for a query whose goal was met or not. `printed` is written if it was. -/
def Output.of (printed : String) : Except AssertionError Unit → Output
  | .ok () => ⟨0, printed, ""⟩
  | .error e => ⟨1, "", e.message ++ "\n"⟩

/-- Checks a query. -/
def Request.run (s : Surroundings) (r : Request) : Act Output := do
  let query := (← Builder.withBackend s r.backend).query r.sql
  match r.goal with
  | .runs => return .of "ok\n" (← query.runs)
  | .returns expected => return .of "ok\n" (← query.returns expected)
  | .throws expected => return .of "ok\n" (← query.throws expected)
  | .prints =>
    match ← query.fetch with
    | .ok text => return .of text (.ok ())
    | .error e => return .of "" (.error e)

/-- Runs the program. -/
def run (s : Surroundings) (args : List String) : Output :=
  match Command.ofArguments? args with
  | none => ⟨2, "", usageLine⟩
  | some .help => ⟨0, helpPage, ""⟩
  | some .version => ⟨0, versionLine, ""⟩
  | some (.check request) => ((request.run s).run .empty).1

end RowCheck.CommandLine
