import RowCheck.Proofs.Sql.Loading

/-!
# Finding tables

A table is found by its own name in the schema of a name. What a change to one schema does to the
tables that are found: a table that is added is found under its name, and every other table is found
as before.
-/

namespace RowCheck.Sql

theorem sameName_comm (a b : String) : sameName a b = sameName b a := BEq.comm

theorem sameName_congr_left {a b : String} (same : sameName a b = true) (x : String) :
    sameName a x = sameName b x := by
  rw [sameName_comm a, sameName_comm b, sameName_congr same]

namespace Database

variable {db : Database} {schema table : String} {s t : String} {u v : Table}

/-- The table of a name in the schema of a name. -/
def table? (db : Database) (schema table : String) : Option Table :=
  (db.schema? schema).bind (·.table? table)

/-- Letter case does not count where a table is looked for. -/
theorem table?_congr (sameSchema : sameName s schema = true) (sameTable : sameName t table = true) :
    db.table? s t = db.table? schema table := by
  have schemas : (fun x : Schema => sameName x.name s) = fun x => sameName x.name schema :=
    funext fun x => sameName_congr sameSchema x.name
  have tables : (fun u : Table => sameName u.name t) = fun u => sameName u.name table :=
    funext fun u => sameName_congr sameTable u.name
  simp only [table?, schema?, Schema.table?, schemas, tables]

theorem schema?_changeSchema_eq (db : Database) (schema : String) (f : List Table → List Table)
    (s : String) :
    (db.changeSchema schema f).schema? s = (db.schema? s).map fun x =>
      if sameName s schema then { x with tables := f x.tables } else x := by
  have names : ((fun x : Schema => sameName x.name s) ∘ fun x =>
      if sameName x.name schema then { x with tables := f x.tables } else x)
        = fun x => sameName x.name s := by
    funext x
    dsimp only [Function.comp]
    split <;> rfl
  rw [changeSchema, schema?, List.find?_map, names]
  cases found : db.schema? s with
  | none =>
    rw [schema?] at found
    rw [found]
    rfl
  | some x =>
    have place := sameName_congr_left (sameName_of_schema? found) schema
    rw [schema?] at found
    rw [found, Option.map_some, Option.map_some, place]

/-- A change to the tables of a schema, as it is seen by names. -/
theorem table?_changeSchema (db : Database) (schema : String) (f : List Table → List Table)
    (s t : String) :
    (db.changeSchema schema f).table? s t =
      if sameName s schema then
        (db.schema? s).bind fun x => (f x.tables).find? (sameName ·.name t)
      else db.table? s t := by
  rw [table?, schema?_changeSchema_eq]
  by_cases place : sameName s schema = true
  · simp only [place, if_true, Option.bind_map]
    rfl
  · simp only [place, Bool.false_eq_true, if_false, Option.map_id_fun', id_eq]
    rfl

/-! ## Adding a table -/

/-- A table that is added does not come before one that is there. -/
theorem table?_withTable_of_some (found : db.table? s t = some v) (schema : String) (u : Table) :
    (db.withTable schema u).table? s t = some v := by
  rw [withTable, table?_changeSchema]
  split
  · obtain ⟨x, there, has⟩ := Option.bind_eq_some_iff.mp found
    rw [Schema.table?] at has
    rw [there, Option.bind_some, List.find?_append, has, Option.some_or]
  · exact found

/-- A table that is added is not found at any other place. -/
theorem table?_withTable_of_not (other : ¬(sameName s schema = true ∧ sameName t u.name = true)) :
    (db.withTable schema u).table? s t = db.table? s t := by
  rw [withTable, table?_changeSchema]
  split
  · next place =>
    have unnamed : sameName u.name t = false := by
      rw [sameName_comm]
      exact eq_false_of_ne_true fun same => other ⟨place, same⟩
    rw [table?]
    refine congrArg (Option.bind _) (funext fun x => ?_)
    rw [List.find?_append, List.find?_singleton, unnamed, Schema.table?]
    simp
  · rfl

/-- Where there is room for it, a table that is added is found. -/
theorem table?_withTable_self (room : db.HasRoom schema u.name) :
    (db.withTable schema u).table? schema u.name = some u := by
  obtain ⟨x, there, absent⟩ := room.free
  rw [table?, schema?_withTable there, Option.bind_some]
  exact table?_concat absent rfl

theorem HasRoom.table?_eq_none (room : db.HasRoom schema table) :
    db.table? schema table = none := by
  obtain ⟨x, there, absent⟩ := room.free
  rw [table?, there, Option.bind_some, absent]

/-! ## Replacing a table -/

/-- A table that is put in the place of another one is found where that was found. -/
theorem table?_putTable (db : Database) (schema : String) (u : Table) (s t : String) :
    (db.putTable schema u).table? s t = (db.table? s t).map fun v =>
      if sameName s schema ∧ sameName t u.name then u else v := by
  have names : ((fun v : Table => sameName v.name t) ∘ fun v =>
      if sameName v.name u.name then u else v) = fun v => sameName v.name t := by
    funext v
    dsimp only [Function.comp]
    split
    · next same => rw [sameName_congr_left same]
    · rfl
  rw [putTable, table?_changeSchema]
  split
  · next place =>
    rw [table?]
    cases there : db.schema? s with
    | none => rfl
    | some x =>
      rw [Option.bind_some, Option.bind_some, List.find?_map, names, Schema.table?]
      cases has : x.tables.find? fun v => sameName v.name t with
      | none => rfl
      | some v =>
        have same := sameName_congr_left
          (List.find?_some (p := fun v : Table => sameName v.name t) has) u.name
        simp only [Option.map_some, same, place, true_and]
  · next place => simp [place]

end Database

end RowCheck.Sql
