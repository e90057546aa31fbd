import RowCheck.Factory
import RowCheck.Check

/-!
# Assertions

Queries bound to factories, and the calls that run them. Every such call opens one connection, runs
the query once on it, and closes it. What happens is kept in a log.
-/

namespace RowCheck

/-- What a call does, in the order in which it does it. -/
inductive Event where
  /-- A factory is called. -/
  | called (factory : Nat)
  /-- A query is run on the connection that the factory opened. -/
  | executed (factory : Nat) (sql : String)
  /-- The outcome is judged by a check. -/
  | judged (factory : Nat)
  /-- The connection is closed. -/
  | closed (factory : Nat)
  deriving DecidableEq, Repr

/-- The factories that builders are bound to, and what has happened so far. -/
structure World where
  factories : List Factory
  log : List Event
  /-- What has reached the server. -/
  traffic : Server.Traffic

/-- Calls that happen in a world. -/
abbrev Act := StateM World

namespace World

/-- A world where nothing has happened. -/
def empty : World := ⟨[], [], .empty⟩

/-- How often a factory was called. -/
def calls (w : World) (factory : Nat) : Nat := w.log.count (.called factory)

/-- How many connections of a factory were closed. -/
def closings (w : World) (factory : Nat) : Nat := w.log.count (.closed factory)

/-- Adds to the log. -/
def note (e : Event) (w : World) : World := { w with log := w.log ++ [e] }

/-- Adds to what has reached the server. -/
def sent (t : Server.Traffic) (w : World) : World := { w with traffic := w.traffic.append t }

end World

/-- A query bound to a factory. -/
structure Query where
  factory : Nat
  sql : String
  deriving DecidableEq, Repr

/-- What queries are made from: the factory that they will be bound to. -/
structure Builder where
  factory : Nat
  deriving DecidableEq, Repr

namespace Builder

/-- Adds a factory to the world, and gives the builder that is bound to it. -/
def withFactory (f : Factory) : Act Builder := fun w =>
  (⟨w.factories.length⟩, { w with factories := w.factories ++ [f] })

/-- A builder bound to a named backend. -/
def withBackend (s : Surroundings) (b : Backend) : Act Builder := withFactory (s.factory b)

/-- A builder bound to the fixture data. -/
def initial (s : Surroundings) : Act Builder := withBackend s .regular

/-- Binds a query. Nothing is run. -/
def query (b : Builder) (sql : String) : Query := ⟨b.factory, sql⟩

/-- What is shown of a builder. -/
def record (_ : Builder) : String := "AssertThat \x7b .. \x7d"

end Builder

namespace Query

/-- What is shown of a query. -/
def record (q : Query) : String :=
  let sql := Text.quoted q.sql
  s!"AssertQuery \x7b sql: {sql}, .. \x7d"

/-- Opens the connection of a call. -/
def openConnection (q : Query) : Act (Except AssertionError Connection) := fun w =>
  let opening : Opening :=
    match w.factories[q.factory]? with
    | some f => f.openNth (w.calls q.factory)
    | none => (.empty, .error (.system "no such factory"))
  let w := (w.note (.called q.factory)).sent opening.1
  match opening.2 with
  | .ok c => (.ok c, w)
  | .error e => (.error (.setup q.sql e), w)

/-- Runs the query on a connection. -/
def execute (q : Query) (c : Connection) : Act (Except Failure Results × Connection) := fun w =>
  (c.execute q.sql, w.note (.executed q.factory q.sql))

/-- Closes a connection. -/
def close (q : Query) (c : Connection) : Act Unit := fun w =>
  ((), (w.note (.closed q.factory)).sent c.traffic)

/-- Judges an outcome. -/
def judge (q : Query) (verdict : Verdict) : Act (Except AssertionError Unit) := fun w =>
  (match verdict with
    | .ok () => .ok ()
    | .error e => .error (.rejected q.sql e), w.note (.judged q.factory))

/-- The error of a query that failed. -/
def failed (q : Query) (f : Failure) : AssertionError := .execution q.sql f.trace

/-- Judges a query by an expectation on an open connection. Rows are judged after the connection is
closed, failures before. -/
def judgeOn (q : Query) (e : Expectation) (c : Connection) : Act (Except AssertionError Unit) := do
  let (outcome, c) ← q.execute c
  match e, outcome with
  | .fails check, outcome =>
    let verdict ← q.judge (check (match outcome with | .error f => some f | .ok _ => none))
    q.close c
    return verdict
  | _, .error f =>
    q.close c
    return .error (q.failed f)
  | .rows check, .ok results =>
    q.close c
    q.judge (check results.canonical)
  | .runs, .ok _ =>
    q.close c
    return .ok ()

/-- Judges a query by an expectation. -/
def check (q : Query) (e : Expectation) : Act (Except AssertionError Unit) := do
  match ← q.openConnection with
  | .error e => return .error e
  | .ok c => q.judgeOn e c

/-- Requires the canonical text to be exactly this one. -/
def returns (q : Query) (expected : String) : Act (Except AssertionError Unit) :=
  q.check (.rows (Expectation.exactText expected))

/-- Requires the canonical text to pass a check. -/
def returnsWith (q : Query) (check : String → Verdict) : Act (Except AssertionError Unit) :=
  q.check (.rows check)

/-- Requires the query to fail with a trace that contains a text. -/
def throws (q : Query) (expected : String) : Act (Except AssertionError Unit) :=
  q.check (.fails (Expectation.failureWith expected))

/-- Requires the query not to fail. -/
def runs (q : Query) : Act (Except AssertionError Unit) := q.check .runs

/-- Runs the query and gives its canonical text. -/
def fetch (q : Query) : Act (Except AssertionError String) := do
  match ← q.openConnection with
  | .error e => return .error e
  | .ok c =>
    let (outcome, c) ← q.execute c
    q.close c
    match outcome with
    | .error f => return .error (q.failed f)
    | .ok results => return .ok results.canonical

end Query

end RowCheck
