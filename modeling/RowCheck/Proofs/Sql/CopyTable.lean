import RowCheck.Proofs.Sql.CopyText

/-!
# The table of a copy

Which columns can stand in one table, and what the table holds that was made for a result and filled
with its rows: the rows as its columns store them, numbered from one on. A row is taken if it has a
cell for each column.
-/

namespace RowCheck.Sql

/-! ## Rows -/

/-- The column that holds the copy of a column. -/
def copyColumn (c : Column) : TableColumn := ⟨c.label, some c.type.affinity.name, false, .null⟩

/-- What the copies of some columns store for a row. -/
def storedRow (columns : List Column) (row : List Cell) : Values :=
  columns.zipWith (fun c cell => (storedCell cell).store c.type.affinity) row

/-- The rows of a copy, numbered from `n` on. -/
def numbered (columns : List Column) : Int → List (List Cell) → List StoredRow
  | _, [] => []
  | n, row :: rows => ⟨n, storedRow columns row⟩ :: numbered columns (n + 1) rows

/-- The table that holds the copy of some rows. -/
def copyTable (name : String) (columns : List Column) (rows : List (List Cell)) : Table where
  name := name
  columns := columns.map copyColumn
  key? := none
  rows := numbered columns 1 rows

section Numbered

variable (columns : List Column)

theorem numbered_append (n : Int) (rows more : List (List Cell)) :
    numbered columns n (rows ++ more)
      = numbered columns n rows ++ numbered columns (n + rows.length) more := by
  induction rows generalizing n with
  | nil => simp [numbered]
  | cons row rows ih =>
    have next : n + 1 + (rows.length : Int) = n + ((row :: rows).length : Nat) := by
      rw [List.length_cons]
      omega
    rw [List.cons_append, numbered, ih, next]
    rfl

theorem values_numbered (n : Int) (rows : List (List Cell)) :
    (numbered columns n rows).map StoredRow.values = rows.map (storedRow columns) := by
  induction rows generalizing n with
  | nil => rfl
  | cons row rows ih => rw [numbered, List.map_cons, ih, List.map_cons]

theorem numbered_congr {columns columns' : List Column} {n : Int} {rows rows' : List (List Cell)}
    (h : rows'.map (storedRow columns') = rows.map (storedRow columns)) :
    numbered columns' n rows' = numbered columns n rows := by
  induction rows generalizing rows' n with
  | nil =>
    cases rows' with
    | nil => rfl
    | cons => cases h
  | cons row rows ih =>
    cases rows' with
    | nil => cases h
    | cons row' rows' =>
      obtain ⟨first, others⟩ := List.cons.inj h
      rw [numbered, numbered, first, ih others]

theorem number_lt_of_mem_numbered {n : Int} {rows : List (List Cell)} {r : StoredRow}
    (h : r ∈ numbered columns n rows) : r.number < n + rows.length := by
  induction rows generalizing n with
  | nil => cases h
  | cons row rows ih =>
    rw [List.length_cons]
    rcases List.mem_cons.mp h with rfl | later
    · simp only
      omega
    · have := ih later
      omega

theorem firstFree_numbered (n : Int) (rows : List (List Cell)) :
    Table.firstFree n (numbered columns n rows) = n + rows.length := by
  induction rows generalizing n with
  | nil => simp [numbered, Table.firstFree]
  | cons row rows ih =>
    rw [numbered, Table.firstFree, if_pos rfl, ih, List.length_cons]
    omega

theorem getLast?_numbered (n : Int) (rows : List (List Cell)) :
    ((numbered columns n rows).getLast?.map (·.number + 1)).getD n = n + rows.length := by
  cases rows.eq_nil_or_concat with
  | inl none =>
    subst none
    simp [numbered]
  | inr last =>
    obtain ⟨front, row, rfl⟩ := last
    simp [numbered_append, numbered]
    omega

end Numbered

theorem insertRow_last {row : StoredRow} {rows : List StoredRow}
    (h : ∀ r ∈ rows, r.number < row.number) : Table.insertRow row rows = rows ++ [row] := by
  induction rows with
  | nil => rfl
  | cons r rs ih =>
    have before := h r List.mem_cons_self
    rw [Table.insertRow, if_neg (by omega), ih fun r hr => h r (List.mem_cons_of_mem _ hr)]
    rfl

section Rows

variable (name : String) (columns : List Column) (rows : List (List Cell))

theorem nextNumber_copyTable :
    (copyTable name columns rows).nextNumber = .ok (1 + (rows.length : Int)) := by
  have last := getLast?_numbered columns 1 rows
  have free := firstFree_numbered columns 1 rows
  simp only [Table.nextNumber, copyTable, last, free]
  split <;> rfl

/-- Going over a list without doing anything. -/
theorem forIn_skip {ε α : Type} (l : List α) (f : α → PUnit → Except ε (ForInStep PUnit))
    (h : ∀ a ∈ l, f a ⟨⟩ = .ok (.yield ⟨⟩)) : forIn l PUnit.unit f = .ok ⟨⟩ := by
  induction l with
  | nil => rfl
  | cons a l ih =>
    rw [List.forIn_cons, h a List.mem_cons_self]
    exact ih fun b hb => h b (List.mem_cons_of_mem _ hb)

theorem affinity_copyColumn (c : Column) : (copyColumn c).affinity = c.type.affinity :=
  Affinity.ofDeclared_name c.type.affinity

theorem prepareRow_copyTable (n : Int) (row : List Cell) :
    (copyTable name columns rows).prepareRow n (row.map storedCell)
      = .ok ⟨n, storedRow columns row⟩ := by
  have stored : List.zipWith (fun c v => v.store c.affinity) (columns.map copyColumn)
      (row.map storedCell) = storedRow columns row := by
    simp only [List.zipWith_map, affinity_copyColumn, storedRow]
  simp only [Table.prepareRow, copyTable, stored]
  rw [forIn_skip]
  · rfl
  · rintro ⟨c, i⟩ mem
    have mem : c ∈ columns.map copyColumn := List.fst_mem_of_mem_zipIdx mem
    obtain ⟨column, -, rfl⟩ := List.mem_map.mp mem
    exact if_neg (by simp [copyColumn])

theorem checkUnique_copyTable (values : Values) :
    (copyTable name columns rows).checkUnique ⟨1 + (rows.length : Int), values⟩ = .ok () := by
  have free :
      ((numbered columns 1 rows).any fun r => r.number = 1 + (rows.length : Int)) = false := by
    rw [List.any_eq_false]
    intro r mem
    have := number_lt_of_mem_numbered columns mem
    simp
    omega
  simp only [Table.checkUnique, copyTable, free]
  rfl

/-- One more row goes behind the others, if it has a cell for each column. -/
theorem addCells_copyTable (row : List Cell) :
    (copyTable name columns rows).addCells row =
      if row.length = columns.length then .ok (copyTable name columns (rows ++ [row]))
      else .error (.parameterCount (min row.length (columns.length + 1)) columns.length) := by
  have needed : (copyTable name columns rows).columns.length = columns.length := List.length_map ..
  have last : Table.insertRow ⟨1 + (rows.length : Int), storedRow columns row⟩
      (copyTable name columns rows).rows = numbered columns 1 (rows ++ [row]) := by
    rw [copyTable, insertRow_last fun r mem => number_lt_of_mem_numbered columns mem,
      numbered_append]
    rfl
  have added : (copyTable name columns rows).addRow .null (row.map storedCell)
      = .ok (copyTable name columns (rows ++ [row])) := by
    have number : Table.numberOf (copyTable name columns rows).nextNumber .null
        = .ok (1 + (rows.length : Int)) := nextNumber_copyTable name columns rows
    simp only [Table.addRow, number, ok_bind, prepareRow_copyTable, checkUnique_copyTable, last]
    rfl
  rw [Table.addCells]
  simp only [needed, added]

/-- Rows are loaded if each has a cell for each column, and then behind those that are there. -/
theorem foldlM_addCells {done rows : List (List Cell)} {t : Table} :
    rows.foldlM Table.addCells (copyTable name columns done) = .ok t
      ↔ (∀ row ∈ rows, row.length = columns.length)
        ∧ t = copyTable name columns (done ++ rows) := by
  induction rows generalizing done with
  | nil =>
    rw [List.foldlM_nil, List.append_nil, pure_ok, Except.ok.injEq, eq_comm]
    simp
  | cons row rows ih =>
    rw [List.foldlM_cons, addCells_copyTable, List.forall_mem_cons]
    split
    · next fits =>
      rw [ok_bind, ih, List.append_assoc]
      simp [fits]
    · next odd =>
      constructor
      · intro h
        cases h
      · rintro ⟨⟨fits, -⟩, -⟩
        exact absurd fits odd

end Rows

/-! ## Columns -/

/-- The columns that a table can have: not too many, and no two of one name. -/
def AreDeclarable (columns : List Column) : Prop :=
  columns.length ≤ maxColumns ∧ columns.Pairwise fun a b => sameName a.label b.label = false

/-- A table that is being defined, with the copies of some columns. -/
def drafted (columns : List Column) : Draft :=
  { Draft.empty with columns := columns.map copyColumn }

theorem areDeclarable_concat {columns : List Column} {c : Column} :
    AreDeclarable (columns ++ [c]) ↔ AreDeclarable columns ∧ columns.length < maxColumns ∧
      ∀ b ∈ columns, sameName b.label c.label = false := by
  simp only [AreDeclarable, List.length_append, List.length_singleton, List.pairwise_append,
    List.pairwise_singleton, List.forall_mem_singleton, true_and]
  constructor
  · rintro ⟨small, apart, others⟩
    exact ⟨⟨by omega, apart⟩, by omega, others⟩
  · rintro ⟨⟨-, apart⟩, small, others⟩
    exact ⟨small, apart, others⟩

theorem AreDeclarable.of_append {columns more : List Column} (h : AreDeclarable (columns ++ more)) :
    AreDeclarable columns := by
  obtain ⟨small, apart⟩ := h
  rw [List.length_append] at small
  exact ⟨by omega, (List.pairwise_append.mp apart).1⟩

theorem AreDeclarable.congr {columns columns' : List Column} (h : AreDeclarable columns)
    (labels : columns'.map Column.label = columns.map Column.label) : AreDeclarable columns' := by
  obtain ⟨small, apart⟩ := h
  have length : columns'.length = columns.length := by
    simpa using congrArg List.length labels
  have others : (columns.map Column.label).Pairwise fun a b => sameName a b = false :=
    List.pairwise_map.mpr apart
  rw [← labels] at others
  exact ⟨by omega, List.pairwise_map.mp others⟩

section Columns

variable {sql table : String} {columns done : List Column} {d : Draft}

/-- One more column can be declared if the table is not full and has no column of its name. -/
theorem add_copiedColumn {c : Column} (h : AreDeclarable done) :
    Draft.add sql table (drafted done) (copiedColumn c) = .ok d ↔
      AreDeclarable (done ++ [c]) ∧ d = drafted (done ++ [c]) := by
  have count : (drafted done).columns.length = done.length := List.length_map _
  have next : { drafted done with columns := (drafted done).columns ++ [copyColumn c] }
      = drafted (done ++ [c]) := by
    simp [drafted]
  have known : ((drafted done).find? c.label).isSome = true ↔
      ¬∀ b ∈ done, sameName b.label c.label = false := by
    simp [Draft.find?, drafted, copyColumn, List.findIdx?_isSome]
  rw [areDeclarable_concat, and_iff_right h, copiedColumn, Draft.add, count]
  split
  · next full => simp [Nat.not_lt.mpr full]
  · next free =>
    split
    · next taken =>
      rw [known] at taken
      simp [taken]
    · next fresh =>
      rw [known, not_not] at fresh
      have room : done.length < maxColumns := by omega
      show Except.ok { drafted done with
        columns := (drafted done).columns ++ [copyColumn c] } = .ok d ↔ _
      rw [next, Except.ok.injEq, eq_comm]
      exact (and_iff_right ⟨room, fresh⟩).symm

theorem foldlM_copiedColumn (h : AreDeclarable done) :
    (columns.map copiedColumn).foldlM (Draft.add sql table) (drafted done) = .ok d ↔
      AreDeclarable (done ++ columns) ∧ d = drafted (done ++ columns) := by
  induction columns generalizing done with
  | nil =>
    rw [List.map_nil, List.foldlM_nil, List.append_nil, pure_ok, Except.ok.injEq, eq_comm]
    exact (and_iff_right h).symm
  | cons c cs ih =>
    rw [List.map_cons, List.foldlM_cons, bind_eq_ok_iff, List.append_cons]
    simp only [add_copiedColumn h]
    constructor
    · rintro ⟨_, ⟨more, rfl⟩, rest⟩
      exact (ih more).mp rest
    · rintro ⟨whole, rfl⟩
      have more := whole.of_append
      exact ⟨_, ⟨more, rfl⟩, (ih more).mpr ⟨whole, rfl⟩⟩

/-- A table can be defined with the copies of columns that can stand in one table. -/
theorem defined_eq_ok_iff (sql table : String) :
    (columns.map copiedColumn).foldlM (Draft.add sql table) .empty = .ok d ↔
      AreDeclarable columns ∧ d = drafted columns :=
  foldlM_copiedColumn ⟨Nat.zero_le _, .nil⟩

end Columns

end RowCheck.Sql
