import RowCheck.Proofs.Assertion.Outcome
import RowCheck.Proofs.Clone.Tables

/-!
# Where cloning ends

Cloning goes through its list table by table. Either every table is read and loaded, and then there
is a clone with all of them, or the work ends at the first table that cannot be read or loaded, and
then there is no clone. The source is asked for the tables up to that one and for none behind it.
Cloning fails with an error that names the table, unless the source breaks down: then it breaks down
in the same way, which a source in the translated way never does.
-/

namespace RowCheck

/-! ## Queries on a source -/

/-- A query reaches the server at most once, and one that is answered with rows has reached it. -/
theorem Server.Session.traffic_execute (s : Server.Session) (sql : String) :
    ∃ sent, (s.execute sql).2.traffic = s.traffic.append ⟨[], sent⟩
      ∧ (sent = [] ∨ sent = [sql]) ∧ ∀ r, (s.execute sql).1 = .ok r → sent = [sql] := by
  rcases s.execute_cases sql with ⟨e, link, answer⟩ | ⟨-, -, link, answer⟩
  · rw [answer]
    refine ⟨[], ?_, .inl rfl, ?_⟩
    · simp [Traffic.append]
    · intro r rows
      cases rows
  · rw [answer]
    exact ⟨[sql], rfl, .inr rfl, fun r rows => rfl⟩

namespace Connection

theorem name_of_execute {c next : Connection} {sql : String} {outcome : Except Failure Results}
    (h : c.execute sql = (outcome, next)) : next.name = c.name := by
  cases c with
  | engine c =>
    cases h
    rfl
  | scripted s =>
    cases h
    rfl
  | server s =>
    cases h
    change (s.execute sql).2.name = s.name
    rw [Server.Session.name, Server.Session.name, s.mode_execute]

theorem execute_server (s : Server.Session) (sql : String) :
    (server s).execute sql = ((s.execute sql).1, .server (s.execute sql).2) := rfl

theorem run_append (c : Connection) (first others : List String) :
    (c.run (first ++ others)).2 = ((c.run first).2.run others).2 := by
  induction first generalizing c with
  | nil => rfl
  | cons sql first ih => exact ih (c.execute sql).2

/-- A script receives exactly the queries that are run on it. -/
theorem run_scripted (s : Scripted) (queries : List String) :
    ((scripted s).run queries).2 = scripted { s with received := s.received ++ queries } := by
  induction queries generalizing s with
  | nil => simp [run]
  | cons sql queries ih =>
    have rest := ih { s with received := s.received ++ [sql] }
    rw [List.append_assoc, List.singleton_append] at rest
    exact rest

end Connection

/-- Exactly these queries were run on a source: it is in the state that they lead to, and a script
has received them and nothing else. -/
structure Asked (source : Connection) (queries : List String) (after : Connection) : Prop where
  state : (source.run queries).2 = after
  received : ∀ s, source = .scripted s →
    after = .scripted { s with received := s.received ++ queries }

theorem asked_run (source : Connection) (queries : List String) :
    Asked source queries (source.run queries).2 := by
  refine ⟨rfl, ?_⟩
  rintro s rfl
  exact Connection.run_scripted s queries

/-! ## Tables that are copied -/

/-- Tables read from a source and loaded into a copy, one after the other: every query was answered
with a result, and every result was loaded. -/
inductive Copies (schema : String) :
    List String → Connection → Sql.Connection → Connection → Sql.Connection → Prop
  | nil (source : Connection) (copy : Sql.Connection) : Copies schema [] source copy source copy
  | cons {source next after : Connection} {copy loaded full : Sql.Connection} {table : String}
      {r : Results} {tables : List String} :
    source.execute (Sql.selectText schema table) = (.ok r, next) →
      copy.load schema table r = (.ok (), loaded) →
      Copies schema tables next loaded after full →
      Copies schema (table :: tables) source copy after full

/-- Why the work ends at a table, the state that it leaves the source in, and the failure. -/
inductive StopsAt (schema table backend : String) (source : Connection) (copy : Sql.Connection) :
    Connection → Failure → Prop
  /-- The source answers with an error. -/
  | unread {e : BackendError} {after : Connection} :
    source.execute (Sql.selectText schema table) = (.error (.error e), after) →
      StopsAt schema table backend source copy after
        (.error (.cloneFailed s!"Reading {schema}.{table} from {backend}: {e.message}"))
  /-- The source answers with a result that cannot be loaded. -/
  | unloaded {r : Results} {fault : Sql.Error} {after : Connection} :
    source.execute (Sql.selectText schema table) = (.ok r, after) →
      (copy.database.load schema table r).1 = .error fault →
      StopsAt schema table backend source copy after
        (.error (.cloneFailed s!"Loading {schema}.{table}: {fault.message}"))
  /-- The source breaks down instead of answering, and cloning with it. -/
  | brokeDown {message : String} {after : Connection} :
    source.execute (Sql.selectText schema table) = (.error (.panicked message), after) →
      StopsAt schema table backend source copy after (.panicked message)

section Steps

variable {schema table backend : String} {tables : List String} {source after : Connection}
  {copy full : Sql.Connection} {s : Server.Session} {failure : Failure}

theorem cloneTable_eq_error :
    cloneTable schema table source copy = (.error failure, after)
      ↔ StopsAt schema table source.name source copy after failure := by
  constructor
  · intro h
    simp only [cloneTable] at h
    split at h
    · next e answer =>
      cases h
      exact .unread (Prod.ext answer rfl)
    · next message answer =>
      cases h
      exact .brokeDown (Prod.ext answer rfl)
    · next r answer =>
      cases load : (copy.database.load schema table r).1 with
      | error fault =>
        simp only [Sql.Connection.load, load] at h
        cases h
        exact .unloaded (Prod.ext answer rfl) load
      | ok done =>
        simp only [Sql.Connection.load, load] at h
        cases h
  · intro h
    cases h with
    | unread answer =>
      simp only [cloneTable, answer]
      rfl
    | brokeDown answer => simp only [cloneTable, answer]
    | unloaded answer load => simp only [cloneTable, answer, Sql.Connection.load, load]

/-- Cloning tables succeeds exactly if every one of them is read and loaded. -/
theorem cloneEach_eq_ok :
    cloneEach schema tables source copy = (.ok full, after)
      ↔ Copies schema tables source copy after full := by
  induction tables generalizing source copy with
  | nil =>
    constructor
    · intro h
      cases h
      exact .nil ..
    · intro h
      cases h
      rfl
  | cons table tables ih =>
    constructor
    · intro h
      rw [cloneEach] at h
      split at h
      · cases h
      · next loaded next cloned =>
        obtain ⟨r, answer, load⟩ := cloneTable_eq_ok.mp cloned
        exact .cons answer load (ih.mp h)
    · intro h
      cases h with
      | cons answer load more =>
        rw [cloneEach, cloneTable_eq_ok.mpr ⟨_, answer, load⟩]
        exact ih.mpr more

/-- Cloning tables fails exactly if some tables are copied and the work ends at the next one. -/
theorem cloneEach_eq_error :
    cloneEach schema tables source copy = (.error failure, after)
      ↔ ∃ done table rest next part, tables = done ++ table :: rest
        ∧ Copies schema done source copy next part
        ∧ StopsAt schema table source.name next part after failure := by
  constructor
  · intro h
    induction tables generalizing source copy with
    | nil => cases h
    | cons table tables ih =>
      rw [cloneEach] at h
      split at h
      · next failed =>
        cases h
        exact ⟨[], table, tables, source, copy, rfl, .nil source copy,
          cloneTable_eq_error.mp failed⟩
      · next cloned =>
        obtain ⟨r, answer, load⟩ := cloneTable_eq_ok.mp cloned
        -- The error names the source as it was then, which is still called what it was at first.
        obtain ⟨done, last, rest, final, part, rfl, copied, stops⟩ := ih h
        rw [Connection.name_of_execute answer] at stops
        exact ⟨table :: done, last, rest, final, part, rfl, .cons answer load copied, stops⟩
  · rintro ⟨done, table, rest, next, part, rfl, copied, stops⟩
    induction copied with
    | nil source copy =>
      rw [List.nil_append, cloneEach, cloneTable_eq_error.mpr stops]
    | cons answer load more ih =>
      rw [List.cons_append, cloneEach, cloneTable_eq_ok.mpr ⟨_, answer, load⟩]
      rw [← Connection.name_of_execute answer] at stops
      exact ih stops

/-- The source was asked for the tables that are copied. -/
theorem Copies.run (h : Copies schema tables source copy after full) :
    (source.run (readings schema tables)).2 = after := by
  induction h with
  | nil source copy => rfl
  | @cons source next after copy loaded full table r tables answer load more ih =>
    rw [readings, List.map_cons, Connection.run_cons answer]
    exact ih

/-- The server has received the queries for the tables that are copied. -/
theorem Copies.traffic (h : Copies schema tables source copy after full)
    (served : source = .server s) :
    ∃ s', after = .server s'
      ∧ s'.traffic = s.traffic.append ⟨[], readings schema tables⟩ := by
  induction h generalizing s with
  | nil source copy => exact ⟨s, served, by simp [Server.Traffic.append, readings]⟩
  | @cons source next after copy loaded full table r tables answer load more ih =>
    subst served
    obtain ⟨sent, reached, -, all⟩ := s.traffic_execute (Sql.selectText schema table)
    rw [Connection.execute_server, Prod.mk.injEq] at answer
    obtain ⟨rows, following⟩ := answer
    obtain ⟨s', rfl, others⟩ := ih following.symm
    refine ⟨s', rfl, ?_⟩
    rw [others, reached, all r rows]
    simp [Server.Traffic.append, readings]

/-- The query for the table at which the work ends is the last one. -/
theorem StopsAt.run (h : StopsAt schema table backend source copy after failure) :
    (source.run (readings schema [table])).2 = after := by
  cases h with
  | unread answer | unloaded answer | brokeDown answer =>
    rw [readings, List.map_singleton, Connection.run_cons answer]
    rfl

theorem StopsAt.traffic (h : StopsAt schema table backend (.server s) copy after failure) :
    ∃ sent, after.traffic = s.traffic.append ⟨[], readings schema sent⟩
      ∧ (sent = [] ∨ sent = [table]) := by
  have final : after = .server (s.execute (Sql.selectText schema table)).2 := h.run.symm
  obtain ⟨sent, reached, few, -⟩ := s.traffic_execute (Sql.selectText schema table)
  subst final
  rcases few with rfl | rfl
  · exact ⟨[], reached, .inl rfl⟩
  · exact ⟨[table], reached, .inr rfl⟩

end Steps

/-! ## The clone of an external server's tables -/

theorem exists_cloneFailed {source : Connection} {schema : String} {tables : List String}
    {e : BackendError} (h : (clone source schema tables).1 = .error (.error e)) :
    ∃ reason, e = .cloneFailed reason := by
  rw [clone] at h
  split at h
  · next fault unattached =>
    cases h
    unfold Sql.Connection.attach at unattached
    split at unattached
    · cases unattached
    · cases unattached
      exact ⟨_, rfl⟩
  · obtain ⟨done, table, rest, next, part, -, -, stops⟩ := cloneEach_eq_error.mp (Prod.ext h rfl)
    cases stops with
    | unread | unloaded => exact ⟨_, rfl⟩

/-- The tables of the external server cannot be copied. -/
def Surroundings.CloneFails (s : Surroundings) (failure : Failure) : Prop :=
  ∃ settings profile traffic session, s.externalProfile = .ok (settings, profile)
    ∧ Server.Session.connect s.endpoint? profile .translated = (traffic, .ok session)
    ∧ (clone (.server session) settings.foodmartSchema settings.cloneTables).1 = .error failure

theorem openCopy_snd_of_error {endpoint? : Option Server.Endpoint} {profile : Config.Profile}
    {schema : String} {tables : List String} {traffic : Server.Traffic} {session : Server.Session}
    {e : BackendError}
    (connected : Server.Session.connect endpoint? profile .translated = (traffic, .ok session))
    (failed : (clone (.server session) schema tables).1 = .error (.error e)) :
    (openCopy endpoint? profile schema tables).2 = .error (.backend e) := by
  unfold openCopy
  split
  · next unconnected =>
    rw [connected] at unconnected
    cases unconnected
  · next again =>
    rw [connected] at again
    cases again
    dsimp only
    split
    · next cloned =>
      rw [failed] at cloned
      cases cloned
    · next outcome =>
      rw [failed] at outcome
      cases outcome
      rfl

/-- The failure is an error then, and it is the answer to every query. -/
theorem Surroundings.answer_of_cloneFails {s : Surroundings} {failure : Failure}
    (h : s.CloneFails failure) :
    ∃ reason, failure = .error (.cloneFailed reason) ∧ ∀ n sql,
      (s.factory .foodmartClone).answer n sql = .error (.backend (.cloneFailed reason)) := by
  obtain ⟨settings, profile, traffic, session, configured, connected, failed⟩ := h
  cases failure with
  | panicked message =>
    exact absurd failed
      (clone_ne_panicked (Server.Session.mode_of_connect connected) _ _ message)
  | error e =>
    obtain ⟨reason, rfl⟩ := exists_cloneFailed failed
    refine ⟨reason, rfl, fun n sql => ?_⟩
    have opened : (s.openBackend .foodmartClone).2 = .error (.backend (.cloneFailed reason)) := by
      rw [openBackend, openClone, configured]
      exact openCopy_snd_of_error connected failed
    rw [factory, Factory.always, Factory.answer]
    simp only [opened]
    rfl

/-- Cloning is all or nothing and goes through its list in order. It succeeds exactly if every table
is read and loaded, and then every table is there; otherwise the source was asked for the tables up
to the first one that cannot be read or loaded, and the error says which one that is, or the source
broke down at it and cloning with it. Where queries would be run on the clone of an external server,
the failure is always an error, and no call can be satisfied by it. -/
theorem clone_all_or_nothing (source : Connection) (schema : String) (tables : List String)
    (empty : Sql.Connection) (attached : Sql.Connection.blank.attach schema = .ok empty) :
    (∀ full after, clone source schema tables = (.ok full, after)
      ↔ Copies schema tables source empty after full)
    ∧ (∀ full after, clone source schema tables = (.ok full, after) →
      Asked source (readings schema tables) after
        ∧ (∀ s, source = .server s →
          after.traffic = s.traffic.append ⟨[], readings schema tables⟩)
        ∧ ∀ table ∈ tables, ∃ r, full.execute (Sql.selectText schema table) = (.ok r, full))
    ∧ (∀ failure after, clone source schema tables = (.error failure, after)
      ↔ ∃ done table rest next part, tables = done ++ table :: rest
        ∧ Copies schema done source empty next part
        ∧ StopsAt schema table source.name next part after failure
        ∧ Asked source (readings schema (done ++ [table])) after
        ∧ ∀ s, source = .server s → ∃ sent, (sent = done ∨ sent = done ++ [table])
          ∧ after.traffic = s.traffic.append ⟨[], readings schema sent⟩)
    ∧ ∀ (s : Surroundings) (w : World) (q : Query) (failure : Failure),
      w.factories[q.factory]? = some (s.factory .foodmartClone) → s.CloneFails failure →
        ∃ reason, failure = .error (.cloneFailed reason)
          ∧ ∀ call, (q.perform call w).1
            = .error (.setup q.sql (.backend (.cloneFailed reason))) := by
  have opened : clone source schema tables = cloneEach schema tables source empty := by
    rw [clone, attached]
  refine ⟨fun full after => ?_, fun full after cloned => ⟨?_, ?_, ?_⟩,
    fun failure after => ⟨fun failed => ?_, ?_⟩, fun s w q failure bound fails => ?_⟩
  · rw [opened]
    exact cloneEach_eq_ok
  · have copied := cloneEach_eq_ok.mp (opened.symm.trans cloned)
    rw [← copied.run]
    exact asked_run source _
  · intro s served
    have copied := cloneEach_eq_ok.mp (opened.symm.trans cloned)
    obtain ⟨s', rfl, reached⟩ := copied.traffic served
    exact reached
  · intro table listed
    obtain ⟨i, found⟩ := List.getElem?_of_mem listed
    obtain ⟨r, -, -, answer⟩ := clone_execute cloned found
    exact ⟨r.copied, answer⟩
  · obtain ⟨done, table, rest, next, part, rfl, copied, stops⟩ :=
      cloneEach_eq_error.mp (opened.symm.trans failed)
    -- The source has gone through the tables that are copied, and then through one more.
    have final : (source.run (readings schema (done ++ [table]))).2 = after := by
      rw [readings, List.map_append, Connection.run_append]
      have reached : (source.run (done.map (Sql.selectText schema))).2 = next := copied.run
      rw [reached]
      exact stops.run
    refine ⟨done, table, rest, next, part, rfl, copied, stops, ?_, ?_⟩
    · rw [← final]
      exact asked_run source _
    · intro s served
      obtain ⟨s', rfl, before⟩ := copied.traffic served
      obtain ⟨sent, reached, few⟩ := stops.traffic
      refine ⟨done ++ sent, ?_, ?_⟩
      · rcases few with rfl | rfl
        · exact .inl (List.append_nil done)
        · exact .inr rfl
      · rw [reached, before]
        simp [Server.Traffic.append, readings]
  · rintro ⟨done, table, rest, next, part, split, copied, stops, -, -⟩
    rw [opened]
    exact cloneEach_eq_error.mpr ⟨done, table, rest, next, part, split, copied, stops⟩
  · obtain ⟨reason, failed, answer⟩ := s.answer_of_cloneFails fails
    exact ⟨reason, failed, fun call => Query.perform_fst_of_setup bound (answer _ _) call⟩

open Sql.Database (copyOf)

/-- A source that answers its first query with rows and every later one with an error. -/
def tiringSource : Connection :=
  .scripted ⟨"source", fun before _ =>
    if before = [] then .ok sampleResult else .error (.error (.queryFailed "gone")), []⟩

/-- A server that knows no statement. -/
def bareScript : Server.Script := ⟨.trust, [], []⟩

/-- The profile of that server. -/
def bareProfile : Config.Profile := ⟨"foodmart", "/pg", 5432, "d", "u", none, .disable⟩

/-- A session with that server, to which nothing was sent. -/
def bareSession : Server.Session :=
  ⟨bareScript, .translated, .up, ⟨[⟨"u", "d", none⟩], []⟩⟩

/-- That server, and its profile in a file. -/
def bareSurroundings : Surroundings :=
  ⟨⟨.absent, .bytes (Text.Utf8.encode ("[[connections]]\nname='foodmart'\nhost='/pg'\n" ++
      "database='d'\nusername='u'\nssl_mode='disable'").toList), none⟩, some ⟨"/pg", bareScript⟩⟩

theorem externalProfile_bareSurroundings :
    bareSurroundings.externalProfile = .ok (.default, bareProfile) := by
  have settings : bareSurroundings.sources.settings = .ok .default := rfl
  have found : (bareSurroundings.sources.foodmart .default).toOption = some bareProfile := by
    decide +kernel
  rw [Surroundings.externalProfile, settings]
  rcases read : bareSurroundings.sources.foodmart .default with fault | profile
  · rw [read] at found
    cases found
  · rw [read] at found
    cases found
    simp only [read]

theorem cloneFails_bareSurroundings :
    bareSurroundings.CloneFails (.error (readFailure "foodmart" "customer" "postgres"
      (.server (.ofReport ⟨"ERROR", "42P01", "statement not scripted", none, none, none⟩)))) :=
  ⟨.default, bareProfile, .empty, bareSession, externalProfile_bareSurroundings, rfl, rfl⟩

theorem clone_of_tiringSource :
    Sql.Connection.blank.attach "s" = .ok ⟨copyOf "s" [], .clone⟩ ∧
      (clone tiringSource "s" ["a", "b", "c"]).1
        = .error (.error (readFailure "s" "b" "source" (.queryFailed "gone"))) ∧
      (∃ asked, asked <+: ["a", "b", "c"] ∧
        Asked tiringSource (readings "s" asked) (clone tiringSource "s" ["a", "b", "c"]).2) ∧
      ∃ e, bareSurroundings.CloneFails (.error e) ∧ ∀ text,
        ((⟨0, "select 1"⟩ : Query).throws text
          ⟨[bareSurroundings.factory .foodmartClone], [], .empty⟩).1
            = .error (.setup "select 1" (.backend e)) := by
  have attached : Sql.Connection.blank.attach "s" = .ok ⟨copyOf "s" [], .clone⟩ := rfl
  have failed : (clone tiringSource "s" ["a", "b", "c"]).1
      = .error (.error (readFailure "s" "b" "source" (.queryFailed "gone"))) := rfl
  obtain ⟨-, -, stopped, setup⟩ :=
    clone_all_or_nothing tiringSource "s" ["a", "b", "c"] _ attached
  refine ⟨attached, failed, ?_, ?_⟩
  · obtain ⟨done, table, rest, -, -, split, -, -, asked, -⟩ :=
      (stopped _ _).mp (Prod.ext failed rfl)
    refine ⟨done ++ [table], ⟨rest, ?_⟩, asked⟩
    rw [split, List.append_assoc]
    rfl
  · obtain ⟨reason, same, answer⟩ := setup bareSurroundings
      ⟨[bareSurroundings.factory .foodmartClone], [], .empty⟩ ⟨0, "select 1"⟩ _ rfl
      cloneFails_bareSurroundings
    cases same
    exact ⟨_, cloneFails_bareSurroundings, fun text => answer (.throws text)⟩

/-- A session in the native way with a server whose table has a value that is no text. -/
def manglingSource : Connection :=
  .server ⟨⟨.trust, [], [⟨Sql.selectText "s" "t", [], [], 0, none, none, none,
    [.description ["x"], .row [some [0xff]], .complete], none⟩]⟩, .native, .up, .empty⟩

/-- Where the source breaks down, so does cloning: there is no clone then, and no error either, and
the table behind is not asked for. -/
theorem clone_of_manglingSource :
    Sql.Connection.blank.attach "s" = .ok ⟨copyOf "s" [], .clone⟩ ∧
      (clone manglingSource "s" ["t", "u"]).1
        = .error (.panicked "error retrieving column 0: error deserializing column 0") ∧
      (¬ ∃ copy, (clone manglingSource "s" ["t", "u"]).1 = .ok copy) ∧
      (¬ ∃ reason, (clone manglingSource "s" ["t", "u"]).1
        = .error (.error (.cloneFailed reason))) ∧
      (clone manglingSource "s" ["t", "u"]).2.traffic.statements = [Sql.selectText "s" "t"] := by
  have broken : (clone manglingSource "s" ["t", "u"]).1
      = .error (.panicked "error retrieving column 0: error deserializing column 0") := rfl
  refine ⟨rfl, broken, ?_, ?_, rfl⟩
  · rintro ⟨copy, cloned⟩
    rw [broken] at cloned
    cases cloned
  · rintro ⟨reason, failed⟩
    rw [broken] at failed
    cases failed

end RowCheck
