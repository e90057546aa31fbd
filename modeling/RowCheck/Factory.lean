import RowCheck.Clone
import RowCheck.Backend
import RowCheck.Config.Sources
import RowCheck.AssertionError

/-!
# Opening connections

A factory opens connections on demand. Those of the named backends are opened from what the
configuration says at that time and from the server that can be reached.
-/

namespace RowCheck

/-- What opening a connection gives: what has reached the server meanwhile, and the connection or
the reason that there is none. -/
abbrev Opening := Server.Traffic × Except SetupError Connection

/-- Opens connections. What a call gives may depend on how many calls were before it. -/
structure Factory where
  openNth : Nat → Opening

namespace Factory

/-- A factory whose calls all give the same. -/
def always (opening : Opening) : Factory := ⟨fun _ => opening⟩

/-- A factory that opens connections without a server. -/
def ofConnection (c : Connection) : Factory := always (.empty, .ok c)

/-- A factory that never opens a connection. -/
def failing (e : SetupError) : Factory := always (.empty, .error e)

end Factory

/-- Opens a copy of some tables of a profile's server. They are read in the translated way, in which
no query breaks down. -/
def openCopy (endpoint? : Option Server.Endpoint) (profile : Config.Profile) (schema : String)
    (tables : List String) : Opening :=
  match connected : Server.Session.connect endpoint? profile .translated with
  | (traffic, .error e) => (traffic, .error (.backend e))
  | (traffic, .ok session) =>
    let copied := clone (.server session) schema tables
    (traffic.append copied.2.traffic,
      match outcome : copied.1 with
      | .ok copy => .ok (.engine copy)
      | .error failure =>
        .error (.backend (failure.toError fun message broken =>
          clone_ne_panicked (Server.Session.mode_of_connect connected) schema tables message
            (outcome.trans (congrArg _ broken)))))

/-- What the named backends are opened from. -/
structure Surroundings where
  sources : Config.Sources
  /-- The server that can be reached, if there is one. -/
  endpoint? : Option Server.Endpoint

namespace Surroundings

/-- The settings and the profile of the external server. -/
def externalProfile (s : Surroundings) : Except SetupError (Config.Settings × Config.Profile) :=
  match s.sources.settings with
  | .error e => .error (.configuration e)
  | .ok settings =>
    match s.sources.foodmart settings with
    | .error e => .error (.configuration e)
    | .ok profile => .ok (settings, profile)

/-- Opens a session with the external server. -/
def openServer (s : Surroundings) (mode : Server.Mode) : Opening :=
  match s.externalProfile with
  | .error e => (.empty, .error e)
  | .ok (_, profile) =>
    match Server.Session.connect s.endpoint? profile mode with
    | (traffic, .error e) => (traffic, .error (.backend e))
    | (traffic, .ok session) => (traffic, .ok (.server session))

/-- Opens a copy of the tables that the settings name, of the external server. -/
def openClone (s : Surroundings) : Opening :=
  match s.externalProfile with
  | .error e => (.empty, .error e)
  | .ok (settings, profile) =>
    openCopy s.endpoint? profile settings.foodmartSchema settings.cloneTables

/-- Opens a connection to a named backend. -/
def openBackend (s : Surroundings) : Backend → Opening
  | .regular => (.empty, .ok (.engine .fixtures))
  | .foodmart => s.openServer .translated
  | .foodmartNative => s.openServer .native
  | .foodmartClone => s.openClone

/-- The factory of a named backend. -/
def factory (s : Surroundings) (b : Backend) : Factory := .always (s.openBackend b)

end Surroundings

end RowCheck
