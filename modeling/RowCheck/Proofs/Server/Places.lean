import RowCheck.Proofs.Server.Translated

/-!
# Values by their places

A place is a row and a column; places come row by row. A statement whose rows arrive is answered
with a result that has a cell at each place, which is what the value at that place is read as, or
with the error of the first place at which a value is refused. Main statement: there is nothing in
between, a value has no effect on the cells of other places, and what stands behind the first
refused value has no effect at all.
-/

namespace RowCheck

/-- A row and a column, both counted from zero. -/
structure Place where
  row : Nat
  column : Nat
  deriving DecidableEq

namespace Place

/-- The order of places: row by row, and in a row column by column. -/
def Precedes (p q : Place) : Prop := p.row < q.row ∨ p.row = q.row ∧ p.column < q.column

/-- What stands at a place. -/
def item? {α : Type} (p : Place) (rows : List (List α)) : Option α :=
  rows[p.row]?.bind fun row => row[p.column]?

/-- Rows with another item at a place. -/
def put {α : Type} (p : Place) (x : α) (rows : List (List α)) : List (List α) :=
  rows.modify p.row fun row => row.set p.column x

variable {p q : Place} {α : Type} {x : α} {rows : List (List α)}

theorem not_precedes_self (p : Place) : ¬ p.Precedes p := by
  rintro (below | ⟨-, below⟩)
  · exact Nat.lt_irrefl _ below
  · exact Nat.lt_irrefl _ below

theorem Precedes.ne (h : p.Precedes q) : p ≠ q := by
  rintro rfl
  exact not_precedes_self p h

theorem Precedes.asymm (h : p.Precedes q) : ¬ q.Precedes p := by
  unfold Precedes at h ⊢
  omega

/-- One of two places comes first, unless they are the same. -/
theorem precedes_or_eq_or_precedes (p q : Place) : p.Precedes q ∨ p = q ∨ q.Precedes p := by
  cases p with | mk i j =>
  cases q with | mk i' j' =>
  simp only [Precedes, mk.injEq]
  omega

theorem item?_eq_some_iff :
    p.item? rows = some x ↔ ∃ row, rows[p.row]? = some row ∧ row[p.column]? = some x :=
  Option.bind_eq_some_iff

theorem length_put (p : Place) (x : α) (rows : List (List α)) :
    (p.put x rows).length = rows.length :=
  List.length_modify ..

/-- The rows keep their widths. -/
theorem length_of_mem_put {n : Nat} (width : ∀ row ∈ rows, row.length = n) :
    ∀ row ∈ p.put x rows, row.length = n := by
  intro row mem
  obtain ⟨i, found⟩ := List.mem_iff_getElem?.mp mem
  rw [put, List.getElem?_modify] at found
  obtain ⟨old, there, rfl⟩ := Option.map_eq_some_iff.mp found
  have fits := width old (List.mem_of_getElem? there)
  split
  · rwa [List.length_set]
  · exact fits

theorem item?_put_self {old : α} (there : p.item? rows = some old) :
    p.item? (p.put x rows) = some x := by
  obtain ⟨row, found, inside⟩ := item?_eq_some_iff.mp there
  obtain ⟨within, -⟩ := List.getElem?_eq_some_iff.mp inside
  simp [item?, put, found, List.getElem?_set_self within]

theorem item?_put_of_ne (x : α) (rows : List (List α)) (other : q ≠ p) :
    q.item? (p.put x rows) = q.item? rows := by
  rw [item?, item?, put, List.getElem?_modify]
  cases rows[q.row]? with
  | none => rfl
  | some row =>
    show (if p.row = q.row then row.set p.column x else row)[q.column]? = row[q.column]?
    split
    · next same =>
      have column : p.column ≠ q.column := by
        intro same'
        cases p with | mk i j =>
        cases q with | mk i' j' =>
        exact other (by simp_all)
      exact List.getElem?_set_ne column
    · rfl

end Place

/-! ## Lists whose items correspond -/

/-- Two lists correspond if they are equally long and do so at every place. -/
theorem forall₂_iff_getElem? {α β : Type} {R : α → β → Prop} {xs : List α} {ys : List β} :
    List.Forall₂ R xs ys ↔ ys.length = xs.length ∧
      ∀ (i : Nat) x, xs[i]? = some x → ∃ y, ys[i]? = some y ∧ R x y := by
  induction xs generalizing ys with
  | nil => simp [eq_comm]
  | cons x xs ih =>
    cases ys with
    | nil => simp
    | cons y ys =>
      rw [List.forall₂_cons, ih]
      constructor
      · rintro ⟨first, length, others⟩
        refine ⟨congrArg (· + 1) length, fun i x' found => ?_⟩
        cases i with
        | zero =>
          cases found
          exact ⟨y, rfl, first⟩
        | succ i => exact others i x' found
      · rintro ⟨length, all⟩
        obtain ⟨y', same, first⟩ := all 0 x rfl
        cases same
        exact ⟨first, Nat.succ.inj length, fun i x' found => all (i + 1) x' found⟩

namespace Server.Translated

variable {columns : List TypedColumn} {rows : List (List RawValue)} {made : Results} {p : Place}

/-! ## Complete results -/

/-- A result that has all of the rows, with what each value is read as in its place. -/
structure IsComplete (columns : List TypedColumn) (rows : List (List RawValue))
    (made : Results) : Prop where
  header : made.columns = columns.map fun c => ⟨c.label, c.type.columnType⟩
  rowCount : made.rowCount = rows.length
  width : ∀ cells ∈ made.rows, cells.length = columns.length
  cells : ∀ (p : Place) column value, columns[p.column]? = some column →
    p.item? rows = some value →
    ∃ c, p.item? made.rows = some c ∧ Wire.decode column.type value = .ok c

/-- A row of the right width is read cell by cell. -/
theorem row_eq_ok_iff_getElem? {values : List RawValue} {cells : List Cell}
    (width : values.length = columns.length) :
    row 0 columns values = .ok cells ↔ cells.length = columns.length ∧
      ∀ (j : Nat) column value, columns[j]? = some column → values[j]? = some value →
        ∃ c, cells[j]? = some c ∧ Wire.decode column.type value = .ok c := by
  have zipped : (columns.zip values).length = columns.length := by
    rw [List.length_zip, width, Nat.min_self]
  rw [row_eq_ok_iff, forall₂_iff_getElem?, zipped]
  refine and_congr_right fun _ => ⟨fun all j column value inColumns inValues => ?_,
    fun all j p found => ?_⟩
  · exact all j (column, value) (List.getElem?_zip_eq_some.mpr ⟨inColumns, inValues⟩)
  · obtain ⟨inColumns, inValues⟩ := List.getElem?_zip_eq_some.mp found
    exact all j p.1 p.2 inColumns inValues

/-- What is returned for rows is complete, and what is complete is returned. -/
theorem results_eq_ok_iff_isComplete (width : ∀ values ∈ rows, values.length = columns.length) :
    results columns rows = .ok made ↔ IsComplete columns rows made := by
  rw [results_eq_ok_iff, forall₂_iff_getElem?]
  constructor
  · rintro ⟨header, rowCount, read⟩
    -- Every row of the result comes from a row that was sent.
    have sent {i : Nat} {cells : List Cell} (found : made.rows[i]? = some cells) :
        ∃ values, rows[i]? = some values ∧ row 0 columns values = .ok cells := by
      obtain ⟨inside, -⟩ := List.getElem?_eq_some_iff.mp found
      rw [rowCount] at inside
      have there : rows[i]? = some rows[i] := List.getElem?_eq_getElem inside
      obtain ⟨cells', found', made⟩ := read i _ there
      cases found.symm.trans found'
      exact ⟨_, there, made⟩
    refine ⟨header, rowCount, fun cells mem => ?_, fun p column value under there => ?_⟩
    · obtain ⟨i, found⟩ := List.mem_iff_getElem?.mp mem
      obtain ⟨values, there, made⟩ := sent found
      exact ((row_eq_ok_iff_getElem? (width values (List.mem_of_getElem? there))).mp made).1
    · obtain ⟨values, found, inside⟩ := Place.item?_eq_some_iff.mp there
      obtain ⟨cells, found', made⟩ := read p.row values found
      obtain ⟨c, placed, decoded⟩ :=
        ((row_eq_ok_iff_getElem? (width values (List.mem_of_getElem? found))).mp made).2
          p.column column value under inside
      exact ⟨c, Place.item?_eq_some_iff.mpr ⟨cells, found', placed⟩, decoded⟩
  · intro complete
    refine ⟨complete.header, complete.rowCount, fun i values found => ?_⟩
    obtain ⟨inside, -⟩ := List.getElem?_eq_some_iff.mp found
    rw [← complete.rowCount] at inside
    have made' : made.rows[i]? = some made.rows[i] := List.getElem?_eq_getElem inside
    refine ⟨made.rows[i], made', ?_⟩
    rw [row_eq_ok_iff_getElem? (width values (List.mem_of_getElem? found))]
    refine ⟨complete.width _ (List.mem_of_getElem? made'), fun j column value under there => ?_⟩
    obtain ⟨c, placed, decoded⟩ := complete.cells ⟨i, j⟩ column value under
      (Place.item?_eq_some_iff.mpr ⟨values, found, there⟩)
    obtain ⟨cells, found', placed⟩ := Place.item?_eq_some_iff.mp placed
    obtain rfl : made.rows[i] = cells := Option.some.inj (made'.symm.trans found')
    exact ⟨c, placed, decoded⟩

/-! ## The first value that is refused -/

/-- The first place at which a value is refused, with the column there and the fault. -/
structure RefusedFirst (columns : List TypedColumn) (rows : List (List RawValue)) (p : Place)
    (column : TypedColumn) (fault : DecodeFault) : Prop where
  under : columns[p.column]? = some column
  refused : ∃ value, p.item? rows = some value ∧ column.type.Refuses value fault
  sound : ∀ q : Place, q.Precedes p → ∀ column value, columns[q.column]? = some column →
    q.item? rows = some value → ∃ c, Wire.decode column.type value = .ok c

/-- How a value that is refused is reported: by the label and the type of its column. -/
def refusal (p : Place) (column : TypedColumn) (fault : DecodeFault) : BackendError :=
  .undecodable column.label column.type.name (.undecodable p.column fault)

variable {column : TypedColumn} {value : RawValue} {fault : DecodeFault}

/-- There is only one first place. -/
theorem RefusedFirst.unique (h : RefusedFirst columns rows p column fault) {p' : Place}
    {column' : TypedColumn} {fault' : DecodeFault}
    (h' : RefusedFirst columns rows p' column' fault') :
    refusal p column fault = refusal p' column' fault' := by
  obtain ⟨value, there, refused⟩ := h.refused
  obtain ⟨value', there', refused'⟩ := h'.refused
  rw [← decode_eq_error_iff] at refused refused'
  rcases Place.precedes_or_eq_or_precedes p p' with before | rfl | after
  · obtain ⟨c, read⟩ := h'.sound p before column value h.under there
    cases refused.symm.trans read
  · cases h.under.symm.trans h'.under
    cases there.symm.trans there'
    cases refused.symm.trans refused'
    rfl
  · obtain ⟨c, read⟩ := h.sound p' after column' value' h'.under there'
    cases refused'.symm.trans read

theorem FirstRefused.refusedFirst {e : BackendError} (h : FirstRefused columns rows e) :
    ∃ p column fault, RefusedFirst columns rows p column fault ∧ e = refusal p column fault := by
  induction h with
  | @here values rows before after column value fault place sound refused =>
    have found : (columns.zip values)[before.length]? = some (column, value) := by
      rw [place, List.getElem?_append_right (Nat.le_refl _), Nat.sub_self, List.getElem?_cons_zero]
    obtain ⟨under, inside⟩ := List.getElem?_zip_eq_some.mp found
    refine ⟨⟨0, before.length⟩, column, fault, ⟨under, ⟨value, inside, refused⟩, ?_⟩, rfl⟩
    rintro ⟨i, j⟩ precedes column' value' under' there
    obtain ⟨rfl, left⟩ : i = 0 ∧ j < before.length := by
      simpa [Place.Precedes] using precedes
    have there : values[j]? = some value' := there
    have zipped : (columns.zip values)[j]? = some (column', value') :=
      List.getElem?_zip_eq_some.mpr ⟨under', there⟩
    rw [place, List.getElem?_append_left left] at zipped
    exact sound _ (List.mem_of_getElem? zipped)
  | @later values rows e sound first ih =>
    obtain ⟨⟨i, j⟩, column, fault, ⟨under, refused, others⟩, rfl⟩ := ih
    refine ⟨⟨i + 1, j⟩, column, fault, ⟨under, refused, ?_⟩, rfl⟩
    rintro ⟨i', j'⟩ precedes column' value' under' there
    cases i' with
    | zero =>
      have there : values[j']? = some value' := there
      exact sound (column', value')
        (List.mem_of_getElem? (List.getElem?_zip_eq_some.mpr ⟨under', there⟩))
    | succ i' =>
      have precedes : (Place.mk i' j').Precedes ⟨i, j⟩ := by
        simpa [Place.Precedes] using precedes
      exact others ⟨i', j'⟩ precedes column' value' under' there

/-- A result fails at the first place at which a value is refused. -/
theorem results_eq_error_iff_refusedFirst (width : ∀ values ∈ rows, values.length = columns.length)
    {e : BackendError} : results columns rows = .error e ↔
      ∃ p column fault, RefusedFirst columns rows p column fault ∧ e = refusal p column fault := by
  constructor
  · intro failed
    exact (results_eq_error_iff.mp failed).refusedFirst
  · rintro ⟨p, column, fault, first, rfl⟩
    cases ran : results columns rows with
    | ok made =>
      have complete := (results_eq_ok_iff_isComplete width).mp ran
      obtain ⟨value, there, refused⟩ := first.refused
      obtain ⟨c, -, read⟩ := complete.cells p column value first.under there
      cases (decode_eq_error_iff.mpr refused).symm.trans read
    | error e =>
      obtain ⟨p', column', fault', first', rfl⟩ := (results_eq_error_iff.mp ran).refusedFirst
      rw [first.unique first']

theorem exists_results_eq_ok_iff (width : ∀ values ∈ rows, values.length = columns.length) :
    (∃ made, results columns rows = .ok made) ↔
      ∀ (p : Place) column value, columns[p.column]? = some column → p.item? rows = some value →
        ∃ c, Wire.decode column.type value = .ok c := by
  constructor
  · rintro ⟨made, ran⟩ p column value under there
    obtain ⟨c, -, read⟩ := ((results_eq_ok_iff_isComplete width).mp ran).cells p column value
      under there
    exact ⟨c, read⟩
  · intro read
    cases ran : results columns rows with
    | ok made => exact ⟨made, rfl⟩
    | error e =>
      obtain ⟨p, column, fault, first, -⟩ := (results_eq_error_iff.mp ran).refusedFirst
      obtain ⟨value, there, refused⟩ := first.refused
      obtain ⟨c, made⟩ := read p column value first.under there
      cases (decode_eq_error_iff.mpr refused).symm.trans made

/-! ## Other values at some places -/

theorem IsComplete.put (complete : IsComplete columns rows made) {old : RawValue}
    (under : columns[p.column]? = some column) (there : p.item? rows = some old) {c : Cell}
    (read : Wire.decode column.type value = .ok c) :
    IsComplete columns (p.put value rows) { made with rows := p.put c made.rows } where
  header := complete.header
  rowCount := by
    rw [Place.length_put, ← complete.rowCount]
    exact Place.length_put ..
  width := Place.length_of_mem_put complete.width
  cells := by
    intro q column' value' under' there'
    by_cases same : q = p
    · subst same
      cases under.symm.trans under'
      cases (Place.item?_put_self there).symm.trans there'
      obtain ⟨before, placed, -⟩ := complete.cells q column old under there
      exact ⟨c, Place.item?_put_self placed, read⟩
    · rw [Place.item?_put_of_ne _ _ same] at there' ⊢
      exact complete.cells q column' value' under' there'

theorem IsComplete.refusedFirst_put (complete : IsComplete columns rows made) {old : RawValue}
    (under : columns[p.column]? = some column) (there : p.item? rows = some old)
    (refused : column.type.Refuses value fault) :
    RefusedFirst columns (p.put value rows) p column fault where
  under := under
  refused := ⟨value, Place.item?_put_self there, refused⟩
  sound := by
    intro q before column' value' under' there'
    rw [Place.item?_put_of_ne _ _ before.ne] at there'
    obtain ⟨c, -, read⟩ := complete.cells q column' value' under' there'
    exact ⟨c, read⟩

/-- What stands behind the first place does not matter. -/
theorem RefusedFirst.congr (first : RefusedFirst columns rows p column fault)
    {rows' : List (List RawValue)}
    (same : ∀ q : Place, ¬ p.Precedes q → q.item? rows' = q.item? rows) :
    RefusedFirst columns rows' p column fault where
  under := first.under
  refused := by
    rw [same p (Place.not_precedes_self p)]
    exact first.refused
  sound := by
    intro q before column' value' under' there
    rw [same q before.asymm] at there
    exact first.sound q before column' value' under' there

/-! ## Statements -/

variable {script script' : Script} {sql sql' : String}

/-- A statement whose rows arrive gives all of them, each value in its place, or the error of the
first value that is refused. Another value at one place leads to another cell at that place or to
the error of that value; other values behind the first one that is refused lead to nothing else. -/
theorem complete_or_first_refused (returns : script.Returns sql columns) :
    (∀ made, (execute script sql).outcome = .ok made ↔
      IsComplete columns (script.reply sql).rows made) ∧
    ((∃ made, (execute script sql).outcome = .ok made) ↔
      ∀ (p : Place) column value, columns[p.column]? = some column →
        p.item? (script.reply sql).rows = some value →
        ∃ c, Wire.decode column.type value = .ok c) ∧
    (∀ failure, (execute script sql).outcome = .error failure ↔
      ∃ p column fault, RefusedFirst columns (script.reply sql).rows p column fault ∧
        failure = .error (refusal p column fault)) ∧
    ∀ script' sql', script'.Returns sql' columns →
      (∀ (p : Place) column old value made, columns[p.column]? = some column →
        p.item? (script.reply sql).rows = some old →
        (script'.reply sql').rows = p.put value (script.reply sql).rows →
        (execute script sql).outcome = .ok made →
        (execute script' sql').outcome =
          match Wire.decode column.type value with
          | .ok c => .ok { made with rows := p.put c made.rows }
          | .error fault => .error (.error (refusal p column fault))) ∧
      ∀ p column fault, RefusedFirst columns (script.reply sql).rows p column fault →
        (∀ q : Place, ¬ p.Precedes q →
          q.item? (script'.reply sql').rows = q.item? (script.reply sql).rows) →
        (execute script' sql').outcome = (execute script sql).outcome := by
  have ok {script : Script} {sql : String} (returns : script.Returns sql columns)
      (made : Results) : (execute script sql).outcome = .ok made ↔
        IsComplete columns (script.reply sql).rows made := by
    rw [outcome_of_returns returns, mapError_eq_ok_iff, results_eq_ok_iff_isComplete returns.width]
  have error {script : Script} {sql : String} (returns : script.Returns sql columns)
      (failure : Failure) : (execute script sql).outcome = .error failure ↔
        ∃ p column fault, RefusedFirst columns (script.reply sql).rows p column fault ∧
          failure = .error (refusal p column fault) := by
    rw [outcome_of_returns returns, mapError_eq_error_iff]
    simp only [results_eq_error_iff_refusedFirst returns.width]
    constructor
    · rintro ⟨e, ⟨p, column, fault, first, rfl⟩, rfl⟩
      exact ⟨p, column, fault, first, rfl⟩
    · rintro ⟨p, column, fault, first, rfl⟩
      exact ⟨_, ⟨p, column, fault, first, rfl⟩, rfl⟩
  refine ⟨ok returns, ?_, error returns, fun script' sql' returns' => ⟨?_, ?_⟩⟩
  · simp only [← exists_results_eq_ok_iff returns.width, ok returns,
      results_eq_ok_iff_isComplete returns.width]
  · intro p column old value made under there changed ran
    have complete := (ok returns made).mp ran
    cases read : Wire.decode column.type value with
    | ok c =>
      refine (ok returns' _).mpr ?_
      rw [changed]
      exact complete.put under there read
    | error fault =>
      refine (error returns' _).mpr ⟨p, column, fault, ?_, rfl⟩
      rw [changed]
      exact complete.refusedFirst_put under there (decode_eq_error_iff.mp read)
  · intro p column fault first same
    rw [(error returns _).mpr ⟨p, column, fault, first, rfl⟩]
    exact (error returns' _).mpr ⟨p, column, fault, first.congr same, rfl⟩

/-- The rows of a statement of which every value is read. -/
def soundRows : List (List RawValue) :=
  [[some [0, 0, 0, 7], some [0x61]], [none, some [0x62]], [some [0, 0, 0, 8], none]]

/-- A server with three statements of equal columns: the rows of the second have bytes that are no
text, those of the third also have a number that is too short in the row behind. -/
def brokenTextScript : Script :=
  let mangled := Place.put ⟨1, 1⟩ (some [0xff]) soundRows
  let reply (sql : String) (rows : List (List RawValue)) : Reply :=
    ⟨sql, [("n", 23), ("t", 25)], rows, 0, none, none, none, [], none⟩
  ⟨.trust, [], [reply "sound" soundRows, reply "mangled" mangled,
    reply "short" (Place.put ⟨2, 0⟩ (some [1]) mangled)]⟩

/-- The bytes that are no text make the first result an error, and what is wrong behind them does
not change it. -/
theorem complete_or_first_refused_of_brokenTextScript :
    let columns : List TypedColumn := [⟨"n", .builtIn .int4⟩, ⟨"t", .builtIn .text⟩]
    let error : Except Failure Results :=
      .error (.error (.undecodable "t" "text" (.undecodable 1 (.utf8 ⟨0, some 1⟩))))
    (∀ sql ∈ ["sound", "mangled", "short"], brokenTextScript.Returns sql columns) ∧
      (execute brokenTextScript "sound").outcome
        = .ok ⟨[⟨"n", .integer⟩, ⟨"t", .text⟩],
          [[.int 7, .text "a"], [.null, .text "b"], [.int 8, .null]]⟩ ∧
      (execute brokenTextScript "mangled").outcome = error ∧
      (execute brokenTextScript "short").outcome = error := by
  intro columns error
  have sound : brokenTextScript.Returns "sound" columns := ⟨rfl, rfl, rfl, rfl, by decide, rfl⟩
  have mangled : brokenTextScript.Returns "mangled" columns := ⟨rfl, rfl, rfl, rfl, by decide, rfl⟩
  have short : brokenTextScript.Returns "short" columns := ⟨rfl, rfl, rfl, rfl, by decide, rfl⟩
  obtain ⟨complete, -, -, changed⟩ := complete_or_first_refused sound
  have ran : (execute brokenTextScript "sound").outcome
      = .ok ⟨[⟨"n", .integer⟩, ⟨"t", .text⟩],
        [[.int 7, .text "a"], [.null, .text "b"], [.int 8, .null]]⟩ := rfl
  have failed : (execute brokenTextScript "mangled").outcome = error :=
    (changed _ _ mangled).1 ⟨1, 1⟩ _ _ _ _ rfl rfl rfl ran
  have refused : ServerType.Refuses (.builtIn .text) (some [0xff]) (.utf8 ⟨0, some 1⟩) :=
    decode_eq_error_iff.mp rfl
  have first := ((complete _).mp ran).refusedFirst_put (p := ⟨1, 1⟩) rfl rfl refused
  obtain ⟨-, -, -, behind⟩ := complete_or_first_refused mangled
  have same : (execute brokenTextScript "short").outcome
      = (execute brokenTextScript "mangled").outcome := by
    refine (behind _ _ short).2 ⟨1, 1⟩ _ _ first fun q before => ?_
    refine Place.item?_put_of_ne (p := ⟨2, 0⟩) _ _ ?_
    rintro rfl
    exact before (.inl (by decide))
  refine ⟨?_, ran, failed, same.trans failed⟩
  simp only [List.forall_mem_cons, List.not_mem_nil, false_implies, implies_true, and_true]
  exact ⟨sound, mangled, short⟩

end Server.Translated

end RowCheck
