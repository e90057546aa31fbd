/-!
# Configuration errors

What can be wrong with the settings, the connection profiles or the address of a server.
-/

namespace RowCheck.Config

/-- Why the contents of a configuration file cannot be used. -/
inductive FileFault where
  /-- The text is not TOML, or a value has the wrong type. -/
  | malformed
  | missingField (name : String)
  | unknownVariant (given : String) (expected : List String)
  deriving DecidableEq, Repr

/-- The fault in words. -/
def FileFault.message : FileFault → String
  | .malformed => "TOML parse error"
  | .missingField name => s!"missing field \x60{name}\x60"
  | .unknownVariant given expected =>
    s!"unknown variant \x60{given}\x60, expected one of "
      ++ ", ".intercalate (expected.map fun word => s!"\x60{word}\x60")

/-- A configuration error. -/
inductive Error where
  | noHomeDirectory
  /-- A file is there but cannot be read. -/
  | unreadable (reason : String)
  | malformed (fault : FileFault)
  | invalid (reason : String)
  | profileNotFound (name : String)
  deriving DecidableEq, Repr

/-- The error in words. -/
def Error.message : Error → String
  | .noHomeDirectory => "Could not determine home directory"
  | .unreadable reason => s!"Configuration file not found: {reason}"
  | .malformed fault => s!"Failed to parse configuration: {fault.message}"
  | .invalid reason => s!"Invalid configuration: {reason}"
  | .profileNotFound name => s!"Connection profile '{name}' not found"

/-- The causes behind the error. -/
def Error.causes : Error → List String
  | .malformed fault => [fault.message]
  | _ => []

end RowCheck.Config
