import RowCheck.Config.Records
import RowCheck.Config.Url
import RowCheck.Text.Utf8

/-!
# Where the configuration comes from

The two configuration files and the address in the environment. The address wins over the profile
that the settings name, unless it is blank or no text.
-/

namespace RowCheck.Config

/-- What stands at the place of a file. -/
inductive FileState where
  /-- There is no home directory in which the file could be. -/
  | homeless
  | absent
  /-- A file that is there but cannot be seen, as its directory cannot be searched. -/
  | hidden
  | bytes (content : List UInt8)
  /-- A file that can be seen but not read, with the system's reason and its number. -/
  | unreadable (reason : String) (code : Nat)
  deriving DecidableEq, Repr

/-- A directory in the place of a file. -/
def FileState.directory : FileState := .unreadable "Is a directory" 21

/-- Everything that the configuration is made from. -/
structure Sources where
  /-- The file of the settings. -/
  settingsFile : FileState
  /-- The file of the connection profiles. -/
  profilesFile : FileState
  /-- The address in the environment. -/
  address? : Option (List UInt8)
  deriving DecidableEq, Repr

/-- The text of a file; nothing if it cannot be seen. `label` says which file it is. -/
def FileState.read (label : String) : FileState → Except Error (Option String)
  | .homeless => .error .noHomeDirectory
  | .absent | .hidden => .ok none
  | .unreadable reason code =>
    .error (.unreadable s!"Failed to read {label} file: {reason} (os error {code})")
  | .bytes content =>
    match Text.Utf8.toString content with
    | .ok text => .ok (some text)
    | .error _ =>
      .error (.unreadable s!"Failed to read {label} file: stream did not contain valid UTF-8")

/-- A fault of a file as a configuration error. -/
def ofFile {α : Type} : Except FileFault α → Except Error α
  | .ok a => .ok a
  | .error fault => .error (.malformed fault)

namespace Sources

/-- The settings. -/
def settings (s : Sources) : Except Error Settings := do
  match ← s.settingsFile.read "settings" with
  | none => return .default
  | some text => ofFile (settingsOf text)

/-- The first profile of a name. -/
def findProfile (s : Sources) (name : String) : Except Error Profile := do
  match ← s.profilesFile.read "connections" with
  | none => .error (.profileNotFound name)
  | some text =>
    match (← ofFile (profilesOf text)).find? (·.name == name) with
    | some profile => return profile
    | none => .error (.profileNotFound name)

/-- The address as a text. One that is no text counts as none. -/
def url? (s : Sources) : Option String :=
  s.address?.bind fun address => (Text.Utf8.toString address).toOption

/-- The profile of the external server. -/
def foodmart (s : Sources) (settings : Settings) : Except Error Profile :=
  match s.url? with
  | some url =>
    if (Text.trim url.toList).isEmpty then s.findProfile settings.foodmartProfile
    else Profile.ofUrl url
  | none => s.findProfile settings.foodmartProfile

end Sources

end RowCheck.Config
