import RowCheck.Proofs.Server.Exchange
import RowCheck.Server.Session

/-!
# Where a query breaks down

Whatever the server sends, a query answers with a result or with an error, with one exception: in
the native way a value that is not UTF-8 breaks the query down once the whole reply has arrived.
Main statement: there is no other way to break down, and the message names the column of the first
such value.
-/

namespace RowCheck.Server

/-! ## Values that are no texts -/

/-- A value whose bytes are not UTF-8. -/
def IsMangled (value : RawValue) : Prop :=
  ∃ raw fault, value = some raw ∧ Text.Utf8.toString raw = .error fault

/-- The first mangled value of a row stands in a column. -/
def MangledAt (values : List RawValue) (column : Nat) : Prop :=
  (∃ value, values[column]? = some value ∧ IsMangled value) ∧
    ∀ value ∈ values.take column, ¬ IsMangled value

/-- The first mangled value of some rows stands in a column. -/
def FirstMangled (rows : List (List RawValue)) (column : Nat) : Prop :=
  ∃ before row after, rows = before ++ row :: after ∧
    (∀ r ∈ before, ∀ value ∈ r, ¬ IsMangled value) ∧ MangledAt row column

theorem not_mangledAt_nil (column : Nat) : ¬ MangledAt [] column := by
  rintro ⟨⟨value, found, -⟩, -⟩
  cases found

theorem mangledAt_cons_zero {value : RawValue} {values : List RawValue} :
    MangledAt (value :: values) 0 ↔ IsMangled value := by
  simp [MangledAt]

theorem mangledAt_cons_succ {value : RawValue} {values : List RawValue} {column : Nat} :
    MangledAt (value :: values) (column + 1) ↔ ¬ IsMangled value ∧ MangledAt values column := by
  rw [MangledAt, MangledAt, List.getElem?_cons_succ, List.take_succ_cons, List.forall_mem_cons,
    and_left_comm]

theorem not_firstMangled_nil (column : Nat) : ¬ FirstMangled [] column := by
  rintro ⟨before, row, after, rows, -⟩
  simp at rows

theorem firstMangled_cons {row : List RawValue} {rows : List (List RawValue)} {column : Nat} :
    FirstMangled (row :: rows) column ↔
      MangledAt row column ∨ (∀ value ∈ row, ¬ IsMangled value) ∧ FirstMangled rows column := by
  constructor
  · rintro ⟨before, r, after, split, clean, mangled⟩
    cases before with
    | nil =>
      cases split
      exact .inl mangled
    | cons b before =>
      cases split
      obtain ⟨first, others⟩ := List.forall_mem_cons.mp clean
      exact .inr ⟨first, before, r, after, rfl, others, mangled⟩
  · rintro (mangled | ⟨first, before, r, after, rfl, others, mangled⟩)
    · exact ⟨[], row, rows, rfl, List.forall_mem_nil _, mangled⟩
    · exact ⟨row :: before, r, after, rfl, List.forall_mem_cons.mpr ⟨first, others⟩, mangled⟩

theorem firstMangled_cons_of_sound {row : List RawValue} (sound : ∀ value ∈ row, ¬ IsMangled value)
    (rows : List (List RawValue)) (column : Nat) :
    FirstMangled (row :: rows) column ↔ FirstMangled rows column := by
  have none : ¬ MangledAt row column := by
    rintro ⟨⟨value, found, mangled⟩, -⟩
    exact sound value (List.mem_of_getElem? found) mangled
  rw [firstMangled_cons, or_iff_right none, and_iff_right sound]

theorem firstMangled_cons_of_mangled {row : List RawValue}
    (mangled : ¬ ∀ value ∈ row, ¬ IsMangled value) (rows : List (List RawValue)) (column : Nat) :
    FirstMangled (row :: rows) column ↔ MangledAt row column := by
  rw [firstMangled_cons]
  exact or_iff_left fun h => mangled h.1

/-! ## Rows -/

namespace Native

/-- What is said where a mangled value stands in a column. -/
def breakdown (column : Nat) : String :=
  let cause := s!"error deserializing column {column}"
  s!"error retrieving column {column}: {cause}"

theorem cell_of_isMangled {value : RawValue} (mangled : IsMangled value) (index : Nat) :
    cell index value = .error (.panicked (breakdown index)) := by
  obtain ⟨raw, fault, rfl, broken⟩ := mangled
  rw [cell, broken]
  rfl

theorem cell_of_not_isMangled {value : RawValue} (sound : ¬ IsMangled value) (index : Nat) :
    ∃ c, cell index value = .ok c := by
  cases value with
  | none => exact ⟨.null, rfl⟩
  | some raw =>
    cases read : Text.Utf8.toString raw with
    | error fault => exact absurd ⟨raw, fault, rfl, read⟩ sound
    | ok s => exact ⟨.text s, by rw [cell, read]⟩

theorem row_cons_of_isMangled {value : RawValue} (mangled : IsMangled value) (index : Nat)
    (values : List RawValue) :
    row index (value :: values) = .error (.panicked (breakdown index)) := by
  rw [row, cell_of_isMangled mangled]
  rfl

theorem row_cons_of_not_isMangled {value : RawValue} (sound : ¬ IsMangled value) (index : Nat)
    (values : List RawValue) :
    ∃ c, row index (value :: values) = (row (index + 1) values).map (c :: ·) := by
  obtain ⟨c, read⟩ := cell_of_not_isMangled sound index
  refine ⟨c, ?_⟩
  rw [row, read]
  cases row (index + 1) values <;> rfl

/-- A row breaks down at its first mangled value. -/
theorem row_eq_error_iff {index : Nat} {values : List RawValue} {failure : Failure} :
    row index values = .error failure ↔
      ∃ column, MangledAt values column ∧ failure = .panicked (breakdown (index + column)) := by
  induction values generalizing index with
  | nil =>
    constructor
    · intro h
      cases h
    · rintro ⟨column, mangled, -⟩
      exact absurd mangled (not_mangledAt_nil column)
  | cons value values ih =>
    by_cases mangled : IsMangled value
    · rw [row_cons_of_isMangled mangled, Except.error.injEq]
      constructor
      · rintro rfl
        exact ⟨0, mangledAt_cons_zero.mpr mangled, rfl⟩
      · rintro ⟨column, place, rfl⟩
        cases column with
        | zero => rfl
        | succ column => exact absurd mangled (mangledAt_cons_succ.mp place).1
    · obtain ⟨c, read⟩ := row_cons_of_not_isMangled mangled index values
      have tail : row index (value :: values) = .error failure ↔
          row (index + 1) values = .error failure := by
        rw [read]
        cases row (index + 1) values <;> simp [Except.map]
      rw [tail, ih]
      constructor
      · rintro ⟨column, place, rfl⟩
        refine ⟨column + 1, mangledAt_cons_succ.mpr ⟨mangled, place⟩, ?_⟩
        rw [Nat.add_assoc, Nat.add_comm 1]
      · rintro ⟨column, place, rfl⟩
        cases column with
        | zero => exact absurd (mangledAt_cons_zero.mp place) mangled
        | succ column =>
          refine ⟨column, (mangledAt_cons_succ.mp place).2, ?_⟩
          rw [Nat.add_assoc, Nat.add_comm 1]

theorem row_eq_ok_iff {index : Nat} {values : List RawValue} :
    (∃ cells, row index values = .ok cells) ↔ ∀ value ∈ values, ¬ IsMangled value := by
  induction values generalizing index with
  | nil => exact ⟨fun _ => List.forall_mem_nil _, fun _ => ⟨[], rfl⟩⟩
  | cons value values ih =>
    rw [List.forall_mem_cons]
    by_cases mangled : IsMangled value
    · rw [row_cons_of_isMangled mangled]
      simp [mangled]
    · obtain ⟨c, read⟩ := row_cons_of_not_isMangled mangled index values
      rw [read, and_iff_right mangled, ← @ih (index + 1)]
      cases row (index + 1) values <;> simp [Except.map]

/-! ## Messages -/

/-- The values of a row that is handed on. -/
def Event.values? : Event → Option (List RawValue)
  | .row _ values => some values
  | _ => none

end Native

/-- The values of a row that is sent. -/
def Message.values? : Message → Option (List RawValue)
  | .row values => some values
  | _ => none

/-- The rows that are sent among the messages of a reply. -/
def Reply.sentRows (reply : Reply) : List (List RawValue) := reply.messages.filterMap (·.values?)

namespace Native

/-- A reply that arrives is handed on with all its rows. -/
theorem filterMap_values?_of_receive {labels? : Option (List String)} {ms : List Message}
    {es : List Event} (h : receive labels? ms = .ok es) :
    es.filterMap (·.values?) = ms.filterMap (·.values?) := by
  induction ms generalizing labels? es with
  | nil =>
    cases h
    rfl
  | cons m ms ih =>
    cases m with
    | description | complete | emptyQuery =>
      rw [receive] at h
      obtain ⟨others, received, h⟩ := bind_eq_ok h
      cases h
      exact (ih received :)
    | row values =>
      cases labels? with
      | none => cases h
      | some labels =>
        rw [receive] at h
        split at h
        · cases h
        · obtain ⟨others, received, h⟩ := bind_eq_ok h
          cases h
          exact congrArg (values :: ·) (ih received)
    | notice report =>
      rw [receive] at h
      split at h
      · cases h
      · obtain ⟨others, received, h⟩ := bind_eq_ok h
        cases h
        exact (ih received :)
    | error | unexpected | close => cases h

/-- A collection breaks down at the first mangled value of its rows. -/
theorem foldlM_step_eq_error_iff {kept : Collected} {es : List Event} {failure : Failure} :
    es.foldlM step kept = .error failure ↔
      ∃ column, FirstMangled (es.filterMap (·.values?)) column ∧
        failure = .panicked (breakdown column) := by
  induction es generalizing kept with
  | nil =>
    constructor
    · intro h
      cases h
    · rintro ⟨column, mangled, -⟩
      exact absurd mangled (not_firstMangled_nil column)
  | cons e es ih =>
    rw [List.foldlM_cons]
    cases e with
    | description labels => exact ih
    | ignored => exact ih
    | complete =>
      rw [step]
      split <;> exact ih
    | row labels values =>
      -- Only a row can break down, and it does so before any row behind it is looked at.
      have sent : (Event.row labels values :: es).filterMap (·.values?)
          = values :: es.filterMap (·.values?) := rfl
      simp only [sent, step]
      cases read : row 0 values with
      | error broken =>
        have mangled : ¬ ∀ value ∈ values, ¬ IsMangled value := by
          intro sound
          obtain ⟨cells, other⟩ := row_eq_ok_iff.mpr sound
          rw [read] at other
          cases other
        have first := @row_eq_error_iff 0 values failure
        simp only [read, Except.error.injEq, Nat.zero_add] at first
        simp only [firstMangled_cons_of_mangled mangled, ← first]
        exact Except.error.injEq broken failure ▸ Iff.rfl
      | ok cells =>
        have sound : ∀ value ∈ values, ¬ IsMangled value := row_eq_ok_iff.mp ⟨cells, read⟩
        simp only [firstMangled_cons_of_sound sound]
        exact ih

theorem results_eq_error_iff {es : List Event} {failure : Failure} :
    results es = .error failure ↔
      ∃ column, FirstMangled (es.filterMap (·.values?)) column ∧
        failure = .panicked (breakdown column) := by
  rw [results, ← @foldlM_step_eq_error_iff ⟨[], [], false⟩]
  cases es.foldlM step ⟨[], [], false⟩ with
  | error broken =>
    constructor <;>
    · intro h
      cases h
      rfl
  | ok kept =>
    constructor <;>
    · intro h
      cases h

/-- A query in the native way breaks down at the first mangled value, if the whole reply arrives. -/
theorem outcome_eq_panicked_iff {script : Script} {sql message : String} :
    (execute script sql).outcome = .error (.panicked message) ↔
      (∃ events, receive none (script.reply sql).messages = .ok events) ∧
      ∃ column, FirstMangled (script.reply sql).sentRows column ∧
        message = breakdown column := by
  rw [execute]
  cases received : receive none (script.reply sql).messages with
  | error e => simp [Exchange.failed]
  | ok events =>
    simp only [Reply.sentRows, ← filterMap_values?_of_receive received]
    rw [results_eq_error_iff, and_iff_right ⟨events, rfl⟩]
    simp only [Failure.panicked.injEq]

end Native

/-- A query breaks down exactly if it is run in the native way, reaches the server, and gets a reply
that arrives whole and has a mangled value. -/
theorem Session.execute_eq_panicked_iff (s : Session) (sql message : String) :
    (s.execute sql).1 = .error (.panicked message) ↔
      s.link = .up ∧ Text.hasNul sql = false ∧ s.mode = .native ∧
      (∃ events, Native.receive none (s.script.reply sql).messages = .ok events) ∧
      ∃ column, FirstMangled (s.script.reply sql).sentRows column ∧
        message = Native.breakdown column := by
  rw [← Native.outcome_eq_panicked_iff]
  constructor
  · intro broken
    rcases s.execute_cases sql with ⟨e, link, answer⟩ | ⟨up, sendable, link, answer⟩
    · rw [answer] at broken
      cases broken
    · have native : s.mode = .native := by
        cases mode : s.mode with
        | native => rfl
        | translated => exact absurd broken (execute_ne_panicked mode sql message)
      rw [answer, native] at broken
      exact ⟨up, sendable, native, broken⟩
  · rintro ⟨up, sendable, native, broken⟩
    simpa [execute, up, sendable, native, Mode.execute] using broken

/-- A server with a statement whose only value is no text. -/
def manglingScript : Script :=
  ⟨.trust, [], [⟨"q", [("x", 25)], [[some [0xff]]], 0, none, none, none,
    [.description ["x"], .row [some [0xff]], .complete], none⟩]⟩

/-- The same bytes are an error in the translated way and break the query down in the native way. -/
theorem Session.breakdown_of_manglingScript :
    (execute ⟨manglingScript, .translated, .up, .empty⟩ "q").1
        = .error (.error (.undecodable "x" "text" (.undecodable 0 (.utf8 ⟨0, some 1⟩)))) ∧
      (execute ⟨manglingScript, .native, .up, .empty⟩ "q").1
        = .error (.panicked "error retrieving column 0: error deserializing column 0") := by
  constructor
  · rfl
  · rfl

end RowCheck.Server
