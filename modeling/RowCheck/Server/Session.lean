import RowCheck.Server.Execution
import RowCheck.Text.Split
import RowCheck.Config.Profile

/-!
# Connections to a server

Connecting, and the life of a connection: a loss is reported once, by the first query after it, and
every later query finds the connection closed.
-/

namespace RowCheck.Server

/-- What a client sends when it connects. -/
structure Startup where
  user : String
  database : String
  /-- The password, if the server asked for it. -/
  password? : Option String
  deriving DecidableEq, Repr

/-- What has reached the server, in order. -/
structure Traffic where
  startups : List Startup
  statements : List String
  deriving DecidableEq, Repr

namespace Traffic

/-- Nothing. -/
def empty : Traffic := ⟨[], []⟩

/-- One part of the traffic and the part behind it. -/
def append (a b : Traffic) : Traffic := ⟨a.startups ++ b.startups, a.statements ++ b.statements⟩

end Traffic

/-- Whether a connection is up. -/
inductive Link where
  | up
  /-- Lost, with the reason as long as no query has reported it. -/
  | lost (unreported? : Option String)
  deriving DecidableEq, Repr

/-- A connection to a server. -/
structure Session where
  script : Script
  mode : Mode
  link : Link
  traffic : Traffic

/-- A server at the address by which it is reached. -/
structure Endpoint where
  host : String
  script : Script

namespace Endpoint

/-- The directory that the rest of a path leads to from the one at `here`, both as their names from
the root on. A step up is possible only from a directory that is there: `known` lists the names of
one. -/
def follow (known : List (List Char)) :
    List (List Char) → List (List Char) → Option (List (List Char))
  | here, [] => some here
  | here, step :: steps =>
    if step = [] ∨ step = ['.'] then follow known here steps
    else if step = ['.', '.'] then
      if here.isPrefixOf known then follow known here.dropLast steps else none
    else follow known (here ++ [step]) steps

/-- Whether a host is a path to the server's directory. -/
def isAt (e : Endpoint) (host : List Char) : Bool :=
  let steps (path : List Char) := Text.splitAt '/' path
  let known := (steps e.host.toList).filter (!·.isEmpty)
  host.head? == some '/' && follow known [] (steps host) == some known

end Endpoint

/-- The fault of a text with a NUL, which cannot be sent. -/
def unsendable : Error := .unsendable "string contains embedded null"

/-- Connects to one of the hosts of a profile: what has reached the server, and the connection or
the reason for the failure. Encryption is not possible. -/
def Session.connectTo (endpoint? : Option Endpoint) (profile : Config.Profile) (mode : Mode)
    (host : List Char) : Traffic × Except BackendError Session :=
  let failed (reason : String) : Except BackendError Session := .error (.connectionFailed reason)
  match endpoint?.filter fun e => e.isAt host && profile.port == Config.defaultPort with
  | none => (.empty, failed "error connecting to server")
  | some endpoint =>
    if profile.sslMode ≠ .disable then (.empty, failed "error performing TLS handshake")
    else if Text.hasNul profile.username || Text.hasNul profile.database then
      (.empty, failed unsendable.message)
    else
      let startup : Startup := ⟨profile.username, profile.database, none⟩
      let session (startup : Startup) : Session :=
        ⟨endpoint.script, mode, .up, ⟨[startup], []⟩⟩
      match endpoint.script.auth with
      | .trust => (.empty, .ok (session startup))
      | .reject report => (⟨[startup], []⟩, failed (Error.ofReport report).message)
      | .password =>
        match profile.password? with
        | none => (⟨[startup], []⟩, failed "invalid configuration")
        | some password =>
          if Text.hasNul password then (⟨[startup], []⟩, failed unsendable.message)
          else (.empty, .ok (session { startup with password? := some password }))

/-- Connects to the first of some hosts that lets the client in; if none does, the failure is that
of the last one. What has reached the server until then is kept. -/
def Session.connectToAny (endpoint? : Option Endpoint) (profile : Config.Profile) (mode : Mode) :
    List (List Char) → Traffic × Except BackendError Session
  | [] => (.empty, .error (.connectionFailed "error connecting to server"))
  | [host] => connectTo endpoint? profile mode host
  | host :: hosts =>
    match connectTo endpoint? profile mode host with
    | (traffic, .ok session) => (traffic, .ok session)
    | (traffic, .error _) =>
      match connectToAny endpoint? profile mode hosts with
      | (more, .ok session) =>
        (.empty, .ok { session with traffic := (traffic.append more).append session.traffic })
      | (more, .error e) => (traffic.append more, .error e)

/-- Connects to the server of a profile, whose hosts stand between commas. -/
def Session.connect (endpoint? : Option Endpoint) (profile : Config.Profile) (mode : Mode) :
    Traffic × Except BackendError Session :=
  connectToAny endpoint? profile mode (Text.splitAt ',' profile.host.toList)

theorem Session.mode_of_connectTo {endpoint? : Option Endpoint} {profile : Config.Profile}
    {mode : Mode} {host : List Char} {traffic : Traffic} {session : Session}
    (h : connectTo endpoint? profile mode host = (traffic, .ok session)) : session.mode = mode := by
  simp only [connectTo] at h
  repeat' split at h
  all_goals cases h
  all_goals rfl

theorem Session.mode_of_connectToAny {endpoint? : Option Endpoint} {profile : Config.Profile}
    {mode : Mode} {hosts : List (List Char)} {traffic : Traffic} {session : Session}
    (h : connectToAny endpoint? profile mode hosts = (traffic, .ok session)) :
    session.mode = mode := by
  fun_induction connectToAny endpoint? profile mode hosts generalizing traffic session with
  | case1 => cases h
  | case2 host => exact mode_of_connectTo h
  | case3 host hosts _ sent opened connected =>
    cases h
    exact mode_of_connectTo connected
  | case4 host hosts _ sent e failed more opened connected ih =>
    cases h
    exact (ih connected :)
  | case5 => cases h

/-- A session executes queries in the way that was asked for. -/
theorem Session.mode_of_connect {endpoint? : Option Endpoint} {profile : Config.Profile}
    {mode : Mode} {traffic : Traffic} {session : Session}
    (h : connect endpoint? profile mode = (traffic, .ok session)) : session.mode = mode :=
  mode_of_connectToAny h

namespace Session

/-- The name of the backend. -/
def name (s : Session) : String :=
  match s.mode with
  | .translated => "postgres"
  | .native => "postgres-native"

/-- Runs a query. -/
def execute (s : Session) (sql : String) : Except Failure Results × Session :=
  match s.link with
  | .lost (some reason) =>
    (.error (.error (.connectionLost reason)), { s with link := .lost none })
  | link =>
    if Text.hasNul sql then (.error (.error (.server unsendable)), s)
    else if link ≠ .up then (.error (.error (.server .closed)), s)
    else
      let exchange := s.mode.execute s.script sql
      (exchange.outcome,
        { s with
          link := exchange.lost?.elim .up fun reason => .lost (some reason)
          traffic := s.traffic.append ⟨[], [sql]⟩ })

/-- A query fails at once and changes nothing but the link, or it is executed. -/
theorem execute_cases (s : Session) (sql : String) :
    (∃ e link, s.execute sql = (.error (.error e), { s with link })) ∨
      s.link = .up ∧ Text.hasNul sql = false ∧
        ∃ link, s.execute sql = ((s.mode.execute s.script sql).outcome,
          { s with link, traffic := s.traffic.append ⟨[], [sql]⟩ }) := by
  rw [execute]
  split
  · exact .inl ⟨_, _, rfl⟩
  · split
    · exact .inl ⟨_, s.link, rfl⟩
    · next sendable =>
      split
      · exact .inl ⟨_, s.link, rfl⟩
      · next up =>
        exact .inr ⟨Decidable.of_not_not up, Bool.eq_false_iff.mpr sendable, _, rfl⟩

theorem mode_execute (s : Session) (sql : String) : (s.execute sql).2.mode = s.mode := by
  rcases s.execute_cases sql with ⟨e, link, answer⟩ | ⟨-, -, link, answer⟩
  · rw [answer]
  · rw [answer]

/-- A query of a session in the translated way never breaks down. -/
theorem execute_ne_panicked {s : Session} (translated : s.mode = .translated)
    (sql message : String) : (s.execute sql).1 ≠ .error (.panicked message) := by
  rcases s.execute_cases sql with ⟨e, link, answer⟩ | ⟨-, -, link, answer⟩
  · rw [answer]
    intro broken
    cases broken
  · rw [answer, translated]
    exact Translated.outcome_ne_panicked s.script sql message

end Session

end RowCheck.Server
