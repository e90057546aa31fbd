import RowCheck.CommandLine.Run
import RowCheck.Config.Environment

/-!
# The program

Reads the configuration files and the environment, and checks one query. No server can be reached
from here.
-/

namespace RowCheck

/-- A file that cannot be read, with the reason and its number. -/
def Config.FileState.ofError : IO.Error → Config.FileState
  | .alreadyExists _ code reason | .invalidArgument _ code reason
  | .permissionDenied _ code reason | .resourceExhausted _ code reason
  | .inappropriateType _ code reason | .noSuchThing _ code reason
  | .interrupted _ code reason | .noFileOrDirectory _ code reason
  | .otherError code reason | .resourceBusy code reason | .resourceVanished code reason
  | .unsupportedOperation code reason | .hardwareFault code reason
  | .unsatisfiedConstraints code reason | .illegalOperation code reason
  | .protocolError code reason | .timeExpired code reason => .unreadable reason code.toNat
  | .unexpectedEof => .unreadable "unexpected end of file" 0
  | .userError reason => .unreadable reason 0

/-- Whether a file can be seen: its path leads somewhere, through directories that may be
searched. -/
def isSeen (path : String) : IO Bool := do
  try
    discard (IO.FS.realPath path)
    return true
  catch _ => return false

/-- What stands at a path. -/
def fileAt (path : String) : IO Config.FileState := do
  let seen ← isSeen path
  try
    return .bytes (← IO.FS.readBinFile path).toList
  catch e =>
    match e, seen with
    | e, true => return .ofError e
    | .permissionDenied .., false => return .hidden
    | _, false => return .absent

/-- What stands in the place of a configuration file. -/
def configurationFile (home? : Option String) (name : String) : IO Config.FileState :=
  match home? with
  | none => return .homeless
  | some home => fileAt (home ++ "/.queryassert/" ++ name)

/-- The home directory that stands in the table of the users. -/
def recordedHome : IO (Option String) := do
  try
    let record ← IO.FS.readFile "/proc/self/status"
    let users ← IO.FS.readFile "/etc/passwd"
    return (Config.userOf? record).bind (Config.homeOf? users)
  catch _ => return none

/-- The bytes of a variable. -/
def variableOf (name : String) : IO (Option (List UInt8)) := do
  try
    let environment ← IO.FS.readBinFile "/proc/self/environ"
    return Config.valueOf? (Text.Utf8.ofString name) environment.toList
  catch _ => return (← IO.getEnv name).map Text.Utf8.ofString

end RowCheck

/-- Runs the program and ends with its code. -/
def main (args : List String) : IO UInt32 := do
  let home? := RowCheck.Config.home? (← IO.getEnv "HOME") (← RowCheck.recordedHome)
  let settingsFile ← RowCheck.configurationFile home? "config.toml"
  let profilesFile ← RowCheck.configurationFile home? "connections.toml"
  let address? ← RowCheck.variableOf "QUERYASSERT_FOODMART_URL"
  let output := RowCheck.CommandLine.run ⟨⟨settingsFile, profilesFile, address?⟩, none⟩ args
  IO.print output.stdout
  IO.eprint output.stderr
  return output.code.toUInt32
