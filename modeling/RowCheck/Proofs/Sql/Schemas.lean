import RowCheck.Proofs.Sql.Transaction

/-!
# The names of schemas

No two schemas of a connection have the same name, whatever is run on it. Statements on tables leave
the names of the schemas alone, an attached schema has a new name, and a rollback keeps the schemas
that were attached since the transaction began. So on every connection that was opened here, loading
a table comes to the same as its statements one by one.
-/

namespace RowCheck.Sql

namespace Rows

variable {α σ : Type}

/-- What each step keeps, going through the rows keeps. -/
theorem fold_induction {step : σ → α → Except Error (σ × Bool)} (P : σ → Prop)
    (keeps : ∀ s a s' last, P s → step s a = .ok (s', last) → P s') {rows : Rows α} {s s' : σ}
    (start : P s) (h : rows.fold step s = .ok s') : P s' := by
  induction rows generalizing s with
  | done | halted =>
    cases h
    exact start
  | failed e => cases h
  | row a rest ih =>
    rw [fold] at h
    split at h
    · cases h
    · next last stepped =>
      cases h
      exact keeps _ _ _ _ start stepped
    · next next stepped => exact ih () (keeps _ _ _ _ start stepped) h

end Rows

namespace Database

variable {db after : Database}

/-- What is kept by an action, if it can be prepared and succeeds. -/
def Ensures (x : Except Error (Action Database)) (P : Database → Prop) : Prop :=
  ∀ action after, x = .ok action → action () = .ok after → P after

section Rules

variable {x : Except Error (Action Database)} {y : Except Error Database} {P : Database → Prop}

/-- What is known beforehand is kept when it is done. -/
theorem ensures_beforehand (ensured : ∀ db, y = .ok db → P db) :
    Ensures (prepare.beforehand y) P := by
  intro action after prepared ran
  obtain ⟨db, made, prepared⟩ := bind_eq_ok prepared
  cases prepared
  cases ran
  exact ensured _ made

theorem ensures_action (ensured : ∀ db, y = .ok db → P db) : Ensures (.ok fun () => y) P := by
  intro action after prepared ran
  cases prepared
  exact ensured after ran

/-- A statement that returns no rows keeps what its action keeps. -/
theorem Ensures.silently (ensured : Ensures x P) {action : Action (Relation × Database)}
    {rows : Relation} (prepared : prepare.silently x = .ok action)
    (ran : action () = .ok (rows, after)) : P after := by
  obtain ⟨inner, made, prepared⟩ := bind_eq_ok prepared
  cases prepared
  obtain ⟨left, ran, given⟩ := bind_eq_ok ran
  cases given
  exact ensured inner after made ran

end Rules

theorem within_addRows {schema : String} {t : Table} {slots : List Slot} {rows : Rows Values}
    (h : db.addRows schema t slots rows = .ok after) : db.Within after := by
  obtain ⟨full, -, h⟩ := bind_eq_ok h
  cases h
  exact within_changeSchema ..

theorem within_changeRow {schema table : String} {number : Nat}
    {changes : List (Slot × Formula Ready)} {row : StoredRow}
    (h : db.changeRow schema table number changes row = .ok after) : db.Within after := by
  unfold changeRow at h
  split at h
  · cases h
    exact .refl db
  · obtain ⟨⟨n, values⟩, -, h⟩ := bind_eq_ok h
    obtain ⟨t, -, h⟩ := bind_eq_ok h
    cases h
    exact within_changeSchema ..

section Statements

variable (db : Database) (sql : String) (target : Target) (alias? : Option String)

theorem ensures_insert (columns? : Option (List String)) (rows : Inserted) :
    Ensures (db.insert sql target alias? columns? rows) db.Within := by
  intro action after prepared ran
  obtain ⟨⟨schema, t⟩, -, prepared⟩ := bind_eq_ok prepared
  obtain ⟨slots, -, prepared⟩ := bind_eq_ok prepared
  cases rows with
  | defaults =>
    cases columns? with
    | none =>
      cases prepared
      exact within_addRows ran
    | some names =>
      obtain ⟨⟨⟩, -, prepared⟩ := bind_eq_ok prepared
      cases prepared
      exact within_addRows ran
  | rows q =>
    dsimp only at prepared
    split at prepared
    · obtain ⟨⟨formulas, r⟩, -, prepared⟩ := bind_eq_ok prepared
      obtain ⟨⟨⟩, -, prepared⟩ := bind_eq_ok prepared
      obtain ⟨ready, -, prepared⟩ := bind_eq_ok prepared
      cases prepared
      obtain ⟨values, -, ran⟩ := bind_eq_ok ran
      exact within_addRows ran
    · obtain ⟨bound, -, prepared⟩ := bind_eq_ok prepared
      obtain ⟨ready, -, prepared⟩ := bind_eq_ok prepared
      obtain ⟨⟨⟩, -, prepared⟩ := bind_eq_ok prepared
      cases prepared
      dsimp only at ran
      split at ran
      · obtain ⟨rows, -, ran⟩ := bind_eq_ok ran
        exact within_addRows ran
      · exact within_addRows ran

theorem ensures_update (changed : List (Name × Expr Query)) (filter? : Option (Expr Query)) :
    Ensures (db.update sql target alias? changed filter?) db.Within := by
  intro action after prepared ran
  obtain ⟨⟨schema, t⟩, -, prepared⟩ := bind_eq_ok prepared
  obtain ⟨c, -, prepared⟩ := bind_eq_ok prepared
  obtain ⟨⟨scan, changes⟩, -, prepared⟩ := bind_eq_ok prepared
  cases prepared
  have one (rows : Rows StoredRow) (h : rows.fold (fun db row => do
      return (← db.changeRow schema t.name c.number changes row, false)) db = .ok after) :
      db.Within after := by
    refine Rows.fold_induction db.Within ?_ (.refl db) h
    intro before row later last kept stepped
    obtain ⟨next, moved, given⟩ := bind_eq_ok stepped
    cases given
    exact kept.trans (within_changeRow moved)
  dsimp only at ran
  split at ran
  · exact one _ ran
  · obtain ⟨all, -, ran⟩ := bind_eq_ok ran
    exact one _ ran

theorem ensures_delete (filter? : Option (Expr Query)) :
    Ensures (db.delete sql target alias? filter?) db.Within := by
  intro action after prepared ran
  obtain ⟨⟨schema, t⟩, -, prepared⟩ := bind_eq_ok prepared
  obtain ⟨c, -, prepared⟩ := bind_eq_ok prepared
  obtain ⟨scan, -, prepared⟩ := bind_eq_ok prepared
  cases prepared
  obtain ⟨found, -, ran⟩ := bind_eq_ok ran
  cases ran
  exact within_changeSchema ..

variable (temporary ifNotExists : Bool)

theorem within_createTable {clauses : List TableClause} {fault? : Option SyntaxFault}
    (h : db.createTable sql temporary ifNotExists target clauses fault? = .ok after) :
    db.Within after := by
  obtain ⟨schema?, -, h⟩ := bind_eq_ok h
  cases schema? with
  | none =>
    cases fault? with
    | some fault => cases h
    | none =>
      cases h
      exact .refl _
  | some schema =>
    obtain ⟨draft, -, h⟩ := bind_eq_ok h
    cases fault? with
    | some fault => cases h
    | none =>
      cases h
      exact within_changeSchema ..

theorem ensures_createTableAs (q : Query) :
    Ensures (db.createTableAs sql temporary ifNotExists target q) db.Within := by
  intro action after prepared ran
  obtain ⟨schema?, -, prepared⟩ := bind_eq_ok prepared
  cases schema? with
  | none =>
    cases prepared
    cases ran
    exact .refl db
  | some schema =>
    obtain ⟨bound, -, prepared⟩ := bind_eq_ok prepared
    obtain ⟨ready, -, prepared⟩ := bind_eq_ok prepared
    cases prepared
    obtain ⟨t, -, ran⟩ := bind_eq_ok ran
    cases ran
    exact within_changeSchema ..

theorem within_dropTable {ifExists : Bool} (h : db.dropTable ifExists target = .ok after) :
    db.Within after := by
  unfold dropTable at h
  split at h
  · cases h
    exact within_changeSchema ..
  · split at h
    · cases h
      exact .refl _
    · cases h

end Statements

/-! ## Schemas -/

/-- That every schema has a name of its own, and that a rollback leads to schemas that are there. -/
structure HasSoundSchemas (db : Database) : Prop where
  distinct : db.HasDistinctSchemas
  saved : ∀ saved, db.saved? = some saved →
    saved.map Schema.name <+: db.schemas.map Schema.name

theorem HasDistinctSchemas.congr (h : db.HasDistinctSchemas)
    (names : after.schemas.map Schema.name = db.schemas.map Schema.name) :
    after.HasDistinctSchemas := by
  have apart : (db.schemas.map Schema.name).Pairwise fun a b => sameName a b = false :=
    List.pairwise_map.mpr h
  rw [← names] at apart
  exact List.pairwise_map.mp apart

namespace HasSoundSchemas

variable (sound : db.HasSoundSchemas)

include sound

theorem within (h : db.Within after) : after.HasSoundSchemas where
  distinct := sound.distinct.congr h.names
  saved saved found := by
    rw [h.names]
    exact sound.saved saved (h.saved ▸ found)

/-- A schema is attached under a name that no other one has. -/
theorem attach {name : String} (h : db.attach name = .ok after) : after.HasSoundSchemas := by
  unfold Database.attach at h
  split at h
  · cases h
  split at h
  · cases h
  next unused =>
  cases h
  have fresh : ∀ s ∈ db.schemas, sameName s.name name = false := by
    intro s mem
    have absent : db.schema? name = none := by simpa using unused
    simpa using List.find?_eq_none.mp absent s mem
  constructor
  · refine List.pairwise_append.mpr ⟨sound.distinct, List.pairwise_singleton .., ?_⟩
    intro s mem new listed
    rw [List.mem_singleton.mp listed]
    exact fresh s mem
  · intro saved found
    have before := sound.saved saved found
    rw [List.map_append]
    exact before.trans (List.prefix_append ..)

theorem begin (h : db.begin = .ok after) : after.HasSoundSchemas := by
  unfold Database.begin at h
  split at h
  · cases h
  · cases h
    refine ⟨sound.distinct, fun saved found => ?_⟩
    cases found
    exact List.prefix_rfl

theorem commit (h : db.commit = .ok after) : after.HasSoundSchemas := by
  unfold Database.commit at h
  split at h
  · cases h
  · cases h
    refine ⟨sound.distinct, fun saved found => ?_⟩
    cases found

/-- A rollback keeps the names of all schemas. -/
theorem rollback (h : db.rollback = .ok after) : after.HasSoundSchemas := by
  unfold Database.rollback at h
  split at h
  · cases h
  next saved found =>
  cases h
  obtain ⟨further, names⟩ := sound.saved saved found
  have kept : (saved ++ (db.schemas.drop saved.length).map fun s => (⟨s.name, []⟩ : Schema)).map
      Schema.name = db.schemas.map Schema.name := by
    rw [List.map_append, List.map_map, ← names]
    refine congrArg (saved.map Schema.name ++ ·) ?_
    have := congrArg (List.drop saved.length) names
    rw [← List.map_drop] at this
    have cut : (saved.map Schema.name ++ further).drop saved.length = further :=
      List.drop_left' (List.length_map _)
    rw [cut] at this
    exact this.symm
  refine ⟨sound.distinct.congr kept, fun saved found => ?_⟩
  cases found

/-- Whatever statement is run, the schemas stay sound. -/
theorem ensures_prepare (sql : String) (statement : Statement) {rows : Relation}
    {action : Action (Relation × Database)} (prepared : db.prepare sql statement = .ok action)
    (ran : action () = .ok (rows, after)) : after.HasSoundSchemas := by
  cases statement with
  | nothing => cases prepared
  | query q =>
    obtain ⟨rows, -, prepared⟩ := bind_eq_ok prepared
    cases prepared
    obtain ⟨found, -, given⟩ := bind_eq_ok ran
    cases given
    exact sound
  | insert target alias? columns? rows =>
    exact sound.within
      ((ensures_insert db sql target alias? columns? rows).silently prepared ran)
  | update target alias? changes filter? =>
    exact sound.within
      ((ensures_update db sql target alias? changes filter?).silently prepared ran)
  | delete target alias? filter? =>
    exact sound.within ((ensures_delete db sql target alias? filter?).silently prepared ran)
  | createTable temporary ifNotExists target clauses fault? =>
    refine sound.within (Ensures.silently (ensures_beforehand fun _ made => ?_) prepared ran)
    exact within_createTable db sql target temporary ifNotExists made
  | createTableAs temporary ifNotExists target q =>
    exact sound.within
      ((ensures_createTableAs db sql target temporary ifNotExists q).silently prepared ran)
  | dropTable ifExists target =>
    refine sound.within (Ensures.silently (ensures_beforehand fun _ made => ?_) prepared ran)
    exact within_dropTable db target made
  | attach name => exact (ensures_action fun _ => sound.attach).silently prepared ran
  | begin => exact (ensures_action fun _ => sound.begin).silently prepared ran
  | commit => exact (ensures_action fun _ => sound.commit).silently prepared ran
  | rollback => exact (ensures_action fun _ => sound.rollback).silently prepared ran

theorem run {sql : String} {rows : Relation} (h : db.run sql = .ok (rows, after)) :
    after.HasSoundSchemas := by
  unfold Database.run at h
  split at h
  · cases h
  next statement parsed =>
  obtain ⟨action, prepared, h⟩ := bind_eq_ok h
  split at h
  · exact sound.ensures_prepare sql statement prepared h
  · cases h

end HasSoundSchemas

end Database

namespace Connection

/-- The connections that there can be: those that are opened blank or with the fixtures, after any
number of schemas were attached, tables loaded and queries run. -/
inductive Reached : Connection → Prop
  | blank : Reached .blank
  | fixtures : Reached .fixtures
  | attached {c c' : Connection} {schema : String} :
    Reached c → c.attach schema = .ok c' → Reached c'
  | loaded {c : Connection} (schema table : String) (r : Results) :
    Reached c → Reached (c.load schema table r).2
  | executed {c : Connection} (sql : String) : Reached c → Reached (c.execute sql).2

theorem Reached.hasSoundSchemas {c : Connection} (h : c.Reached) :
    c.database.HasSoundSchemas := by
  induction h with
  | blank => exact ⟨by unfold Database.HasDistinctSchemas; decide, fun _ found => by cases found⟩
  | fixtures => exact ⟨by unfold Database.HasDistinctSchemas; decide, fun _ found => by cases found⟩
  | @attached c c' schema _ attached sound =>
    unfold attach Database.attachSchema Database.perform at attached
    split at attached
    · next db made =>
      cases attached
      split at made
      · -- A name with a NUL: what the statement says is read from its text.
        cases ran : c.database.run (attachText schema) with
        | error e =>
          rw [ran] at made
          cases made
        | ok result =>
          rw [ran] at made
          cases made
          exact sound.run ran
      · exact sound.attach made
    · cases attached
  | @loaded c schema table r _ sound =>
    rw [load]
    rcases Database.load_cases c.database schema table r with ⟨e, loaded⟩ | ⟨-, e, loaded⟩ |
      ⟨room, loaded⟩
    · rw [loaded]
      exact sound
    · rw [loaded]
      exact sound.within (Database.keeps_withTable ..).within
    · rw [loaded]
      exact sound.within (Database.keeps_withCopy room r).within
  | @executed c sql _ sound =>
    unfold execute Database.execute
    cases ran : c.database.run sql with
    | error e => exact sound
    | ok result => exact sound.run ran

/-- On every connection that was opened here, loading a table comes to the same as its statements
one by one. -/
theorem Reached.load_eq_loadEach {c : Connection} (h : c.Reached) (schema table : String)
    (r : Results) :
    c.database.load schema table r = c.database.loadEach schema table r :=
  Database.load_eq_loadEach h.hasSoundSchemas.distinct schema table r

end Connection

end RowCheck.Sql
