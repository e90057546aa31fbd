import RowCheck.Connection

/-!
# Cloning

Copying tables from any connection into a fresh database of the in-process engine, so that queries
run on a local copy. Tables are read and copied one after the other; the first one that cannot be
read or copied ends the work, and then there is no clone. So does a source that breaks down: nobody
catches what it throws, and cloning breaks down with it.
-/

namespace RowCheck

/-- The error of a table that the source answers with an error. -/
def readFailure (schema table backend : String) (e : BackendError) : BackendError :=
  .cloneFailed s!"Reading {schema}.{table} from {backend}: {e.message}"

/-- Copies a table, in the state that the source and the copy are in. -/
def cloneTable (schema table : String) (source : Connection) (copy : Sql.Connection) :
    Except Failure Sql.Connection × Connection :=
  let (outcome, after) := source.execute (Sql.selectText schema table)
  match outcome with
  | .error (.error e) => (.error (.error (readFailure schema table source.name e)), after)
  | .error (.panicked message) => (.error (.panicked message), after)
  | .ok results =>
    match copy.load schema table results with
    | (.error e, _) => (.error (.error e), after)
    | (.ok (), copy) => (.ok copy, after)

/-- Copies tables in their order. -/
def cloneEach (schema : String) :
    List String → Connection → Sql.Connection → Except Failure Sql.Connection × Connection
  | [], source, copy => (.ok copy, source)
  | table :: tables, source, copy =>
    match cloneTable schema table source copy with
    | (.error failure, source) => (.error failure, source)
    | (.ok copy, source) => cloneEach schema tables source copy

/-- Copies tables of a schema into a fresh database, under the same name of the schema. -/
def clone (source : Connection) (schema : String) (tables : List String) :
    Except Failure Sql.Connection × Connection :=
  match Sql.Connection.blank.attach schema with
  | .error e => (.error (.error e), source)
  | .ok copy => cloneEach schema tables source copy

/-! ## Sources that do not break down -/

theorem cloneTable_snd (schema table : String) (source : Connection) (copy : Sql.Connection) :
    (cloneTable schema table source copy).2
      = (source.execute (Sql.selectText schema table)).2 := by
  simp only [cloneTable]
  repeat' split
  all_goals rfl

/-- Copying a table breaks down only where the source does. -/
theorem execute_of_cloneTable_panicked {schema table message : String} {source : Connection}
    {copy : Sql.Connection}
    (h : (cloneTable schema table source copy).1 = .error (.panicked message)) :
    (source.execute (Sql.selectText schema table)).1 = .error (.panicked message) := by
  simp only [cloneTable] at h
  split at h
  · cases h
  · next answer =>
    cases h
    exact answer
  · split at h <;> cases h

theorem cloneEach_ne_panicked {session : Server.Session} (translated : session.mode = .translated)
    (schema : String) (tables : List String) (copy : Sql.Connection) (message : String) :
    (cloneEach schema tables (.server session) copy).1 ≠ .error (.panicked message) := by
  induction tables generalizing session copy with
  | nil =>
    intro broken
    cases broken
  | cons table tables ih =>
    rw [cloneEach]
    split
    · next failure source failed =>
      intro broken
      cases broken
      exact session.execute_ne_panicked translated _ message
        (execute_of_cloneTable_panicked (congrArg Prod.fst failed))
    · next loaded source cloned =>
      have next : .server (session.execute (Sql.selectText schema table)).2 = source :=
        (cloneTable_snd ..).symm.trans (congrArg Prod.snd cloned)
      subst next
      exact ih ((session.mode_execute _).trans translated) loaded

/-- Cloning from a session in the translated way never breaks down. -/
theorem clone_ne_panicked {session : Server.Session} (translated : session.mode = .translated)
    (schema : String) (tables : List String) (message : String) :
    (clone (.server session) schema tables).1 ≠ .error (.panicked message) := by
  rw [clone]
  split
  · intro broken
    cases broken
  · exact cloneEach_ne_panicked translated schema tables _ message

end RowCheck
