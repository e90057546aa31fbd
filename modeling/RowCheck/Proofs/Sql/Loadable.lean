import RowCheck.Proofs.Sql.Loading
import RowCheck.Proofs.Sql.TableText
import RowCheck.Sql.Connection

/-!
# What can be loaded

Main statement: a result is loaded exactly if its shape and the place for it are sound and it has a
column, and what is then found at the place is its copy. Without a column nothing is loaded: the
text of the statement that makes the table cannot be read.
-/

namespace RowCheck.Sql

namespace Database

variable {db : Database} {schema table : String} {r : Results}

/-- What goes wrong without a column: the statement ends where the first one is expected. -/
def columnExpected (schema table : String) : Error :=
  .atOffset "near \")\": syntax error" (createText schema table []) (definitionOffset schema table)

/-- Without a column nothing is loaded, and the database stays as it was. -/
theorem load_of_columnless (loadable : db.IsLoadable schema table r) (none : r.columns = []) :
    db.load schema table r = (.error (columnExpected schema table), db) := by
  have refused : db.createCopy schema table r.columns = .error (columnExpected schema table) := by
    have clean := loadable.clean
    rw [none] at clean ⊢
    have declarable : AreDeclarable [] := ⟨Nat.zero_le _, .nil⟩
    unfold createCopy
    simp only [perform, clean, Bool.false_eq_true, if_false, List.isEmpty_nil, if_true]
    rw [createTable_eq_error loadable.room declarable, SyntaxFault.error, columnExpected]
    rfl
  rw [load, refused]

end Database

namespace Connection

/-- A result is loaded exactly if it can be and has a column. What is then found at its place is its
copy; without a column, making the table fails. The table is made by what the text of the statement
for it is read as. -/
theorem load_succeeds_iff (c : Connection) (schema table : String) (r : Results) :
    ((c.load schema table r).1 = .ok () ↔
      c.database.IsLoadable schema table r ∧ r.columns ≠ []) ∧
    (c.database.IsLoadable schema table r → r.columns ≠ [] →
      ∃ loaded name, c.load schema table r = (.ok (), { c with database := loaded }) ∧
        loaded.tableAt? schema table = some (name, copyTable table r.columns r.rows)) ∧
    (c.database.IsLoadable schema table r → r.columns = [] →
      ∃ reason, reason = (Database.columnExpected schema table).message ∧
        c.load schema table r
          = (.error (.cloneFailed s!"Loading {schema}.{table}: {reason}"), c)) ∧
    c.database.createCopy schema table r.columns
      = (c.database.run (createText schema table r.columns)).map (·.2) := by
  have copied (loadable : c.database.IsLoadable schema table r) (filled : r.columns ≠ []) :
      c.load schema table r
        = (.ok (), { c with database := c.database.withCopy schema table r }) := by
    rw [load, Database.load_eq_ok_iff.mpr ⟨loadable, filled, rfl⟩]
  refine ⟨⟨fun loads => ?_, fun ⟨loadable, filled⟩ => ?_⟩, fun loadable filled => ?_,
    fun loadable none => ⟨_, rfl, ?_⟩, Database.createCopy_eq_run ..⟩
  · cases result : c.database.load schema table r with
    | mk outcome loaded =>
      rw [load, result] at loads
      cases outcome with
      | error e => cases loads
      | ok =>
        obtain ⟨loadable, filled, -⟩ := Database.load_eq_ok_iff.mp result
        exact ⟨loadable, filled⟩
  · rw [copied loadable filled]
  · obtain ⟨name, found⟩ := Database.tableAt?_withCopy loadable.room r
    exact ⟨_, name, copied loadable filled, found⟩
  · rw [load, Database.load_of_columnless loadable none]

/-- A copy that has one table so far. -/
def startedCopy : Connection := ⟨.copyOf "s" [copyTable "u" [⟨"a", .integer⟩] []], .clone⟩

/-- A result with an empty label and one that has quotes in it. -/
def quotedResult : Results :=
  ⟨[⟨"", .integer⟩, ⟨"a\" TEXT, \"b", .text⟩], [[.int 1, .null], [.null, .text "x"]]⟩

theorem startedCopy_loads_quotedResult :
    (∃ loaded name, startedCopy.load "s" "t\"" quotedResult
        = (.ok (), { startedCopy with database := loaded }) ∧
      loaded.tableAt? "s" "t\""
        = some (name, copyTable "t\"" quotedResult.columns quotedResult.rows))
    ∧ ¬(startedCopy.load "S" "U" quotedResult).1 = .ok () := by
  have loadable : startedCopy.database.IsLoadable "s" "t\"" quotedResult :=
    { room := ⟨⟨_, rfl, by decide⟩, by decide⟩
      clean := by decide
      declarable := ⟨by decide, by decide⟩
      widths := by decide
      idle := rfl }
  refine ⟨(load_succeeds_iff startedCopy "s" "t\"" quotedResult).2.1 loadable (by decide), ?_⟩
  intro loads
  obtain ⟨⟨s, found, absent⟩, -⟩ := ((load_succeeds_iff ..).1.mp loads).1.room
  cases found
  exact absurd absent (by decide)

/-- A result without columns can be loaded in all respects but this one, and is not. -/
theorem emptyResult_not_loaded :
    Connection.blank.attach "s" = .ok ⟨.copyOf "s" [], .clone⟩ ∧
      (Database.copyOf "s" []).IsLoadable "s" "t" .empty ∧
      load ⟨.copyOf "s" [], .clone⟩ "s" "t" .empty =
        (.error (.cloneFailed <| "Loading s.t: near \")\": syntax error in "
          ++ "CREATE TABLE \"s\".\"t\" (); at offset 22"), ⟨.copyOf "s" [], .clone⟩) := by
  have loadable : (Database.copyOf "s" []).IsLoadable "s" "t" .empty :=
    { room := ⟨⟨_, rfl, rfl⟩, by decide⟩
      clean := by decide
      declarable := ⟨by decide, by decide⟩
      widths := by decide
      idle := rfl }
  refine ⟨rfl, loadable, ?_⟩
  rw [load, Database.load_of_columnless loadable rfl]
  refine congrArg (fun reason => (Except.error (BackendError.cloneFailed reason), _)) ?_
  decide +kernel

end Connection

end RowCheck.Sql
