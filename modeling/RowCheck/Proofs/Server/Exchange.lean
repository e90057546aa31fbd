import RowCheck.Server.Execution
import RowCheck.Proofs.Except

/-!
# One query on a server

What a single query leads to: with which replies the connection is lost, and what a query that
reaches the server can answer.
-/

namespace RowCheck.Server

/-! ## What breaks a connection off -/

/-- A message with which the connection ends, and why. -/
inductive Message.Ends : Message → String → Prop where
  | close : Ends .close (Error.message .closed)
  | notice {report : Report} (fault : report.fault?.isSome) :
    Ends (.notice report) (Error.ofReport report).message

/-- The server prepares a statement, and the client goes on to execute it. -/
structure Script.Prepares (script : Script) (sql : String) : Prop where
  stays : (script.reply sql).hangup? ≠ some .prepare
  prepared : (script.reply sql).prepareError? = none
  known : ∀ column ∈ (script.reply sql).columns, (script.type? column.2).isSome
  parameters : (script.reply sql).parameters = 0

/-- The connection is lost during a query or after its reply, for a reason. -/
inductive BreaksOff (script : Script) (sql : String) : Mode → String → Prop where
  /-- The server hangs up when it is to prepare the statement. -/
  | inPrepare (hangup : (script.reply sql).hangup? = some .prepare) :
    BreaksOff script sql .translated (Error.message .closed)
  /-- The server hangs up when it is to execute the statement. -/
  | inExecute (prepares : script.Prepares sql)
      (hangup : (script.reply sql).hangup? = some .execute) :
    BreaksOff script sql .translated (Error.message .closed)
  /-- The server sends an error unasked after the rows. -/
  | afterRows {report : Report} (prepares : script.Prepares sql)
      (stays : (script.reply sql).hangup? = none)
      (unasked : (script.reply sql).thenLost? = some report) :
    BreaksOff script sql .translated (Error.ofReport report).message
  /-- The server hangs up among the messages, or sends one that cannot be read. -/
  | inMessages {reason : String} {before after : List Message} {message : Message}
      (messages : (script.reply sql).messages = before ++ message :: after)
      (ends : message.Ends reason) (first : ∀ m ∈ before, ∀ r, ¬ m.Ends r) :
    BreaksOff script sql .native reason
  /-- The server sends an error unasked after the messages. -/
  | afterMessages {report : Report}
      (stays : ∀ m ∈ (script.reply sql).messages, ∀ r, ¬ m.Ends r)
      (unasked : (script.reply sql).thenLost? = some report) :
    BreaksOff script sql .native (Error.ofReport report).message

/-- Why the connection is lost with a message. -/
def Message.lossReason? : Message → Option String
  | .close => some (Error.message .closed)
  | .notice report => report.fault?.map fun _ => (Error.ofReport report).message
  | _ => none

theorem Message.lossReason?_eq_some {m : Message} {reason : String} :
    m.lossReason? = some reason ↔ m.Ends reason := by
  constructor
  · intro h
    cases m with
    | close =>
      cases h
      exact .close
    | notice report =>
      obtain ⟨fault, known, rfl⟩ := Option.map_eq_some_iff.mp h
      exact .notice (by rw [known]; rfl)
    | description | row | complete | emptyQuery | error | unexpected => cases h
  · intro h
    cases h with
    | close => rfl
    | @notice report fault =>
      obtain ⟨fault, known⟩ := Option.isSome_iff_exists.mp fault
      rw [lossReason?, known]
      rfl

theorem Message.lossReason?_eq_none {m : Message} :
    m.lossReason? = none ↔ ∀ reason, ¬ m.Ends reason := by
  rw [Option.eq_none_iff_forall_ne_some]
  exact forall_congr' fun reason => not_congr lossReason?_eq_some

namespace Native

theorem lossWithin_eq (reply : Reply) :
    lossWithin reply = reply.messages.findSome? Message.lossReason? :=
  rfl

theorem lost?_execute (script : Script) (sql : String) :
    (execute script sql).lost?
      = (lossWithin (script.reply sql) <|> (script.reply sql).lossAfter) := by
  rw [execute]
  split <;> rfl

theorem breaksOff_iff {script : Script} {sql reason : String} :
    BreaksOff script sql .native reason ↔ (execute script sql).lost? = some reason := by
  rw [lost?_execute, lossWithin_eq, Option.orElse_eq_orElse, Option.orElse_eq_or,
    Option.or_eq_some_iff, List.findSome?_eq_some_iff, List.findSome?_eq_none_iff]
  constructor
  · intro h
    cases h with
    | inMessages messages ends first =>
      refine .inl ⟨_, _, _, messages, Message.lossReason?_eq_some.mpr ends, fun m hm => ?_⟩
      exact Message.lossReason?_eq_none.mpr (first m hm)
    | afterMessages stays unasked =>
      refine .inr ⟨fun m hm => Message.lossReason?_eq_none.mpr (stays m hm), ?_⟩
      rw [Reply.lossAfter, unasked]
      rfl
  · rintro (⟨before, message, after, messages, ends, first⟩ | ⟨stays, unasked⟩)
    · exact .inMessages messages (Message.lossReason?_eq_some.mp ends)
        fun m hm => Message.lossReason?_eq_none.mp (first m hm)
    · obtain ⟨report, sent, rfl⟩ := Option.map_eq_some_iff.mp unasked
      exact .afterMessages (fun m hm => Message.lossReason?_eq_none.mp (stays m hm)) sent

end Native

namespace Translated

variable {script : Script} {sql : String}

/-- Nothing is lost with a statement that is refused before it is executed. -/
theorem lost?_of_not_prepares (stays : (script.reply sql).hangup? ≠ some .prepare)
    (refused : ¬ script.Prepares sql) : (execute script sql).lost? = none := by
  rw [execute, if_neg stays]
  cases prepared : (script.reply sql).prepareError? with
  | some report => rfl
  | none =>
    cases typed : (script.reply sql).columns.mapM
        (fun column => (script.type? column.2).map (TypedColumn.mk column.1)) with
    | none =>
      simp only [typed]
      rfl
    | some columns =>
      have known := exists_mapM_eq_some.mp ⟨columns, typed⟩
      have parameters : (script.reply sql).parameters ≠ 0 := fun none =>
        refused ⟨stays, prepared, by simpa using known, none⟩
      simp only [typed, if_pos parameters]
      rfl

theorem lost?_of_prepares (prepares : script.Prepares sql) :
    (execute script sql).lost?
      = if (script.reply sql).hangup? = some .execute then some (Error.message .closed)
        else (script.reply sql).lossAfter := by
  obtain ⟨columns, typed⟩ : ∃ columns, (script.reply sql).columns.mapM
      (fun column => (script.type? column.2).map (TypedColumn.mk column.1)) = some columns :=
    exists_mapM_eq_some.mpr (by simpa using prepares.known)
  rw [execute, if_neg prepares.stays, prepares.prepared]
  simp only [typed, prepares.parameters, ne_eq, not_true_eq_false, if_false]
  split
  · rfl
  · split
    · rfl
    · split <;> rfl

theorem lost?_of_hangup (hangup : (script.reply sql).hangup? = some .prepare) :
    (execute script sql).lost? = some (Error.message .closed) := by
  rw [execute, if_pos hangup]
  rfl

theorem breaksOff_iff {reason : String} :
    BreaksOff script sql .translated reason ↔ (execute script sql).lost? = some reason := by
  constructor
  · intro h
    cases h with
    | inPrepare hangup => exact lost?_of_hangup hangup
    | inExecute prepares hangup => rw [lost?_of_prepares prepares, if_pos hangup]
    | afterRows prepares stays unasked =>
      rw [lost?_of_prepares prepares, stays, if_neg (by simp), Reply.lossAfter, unasked]
      rfl
  · intro lost
    by_cases hangup : (script.reply sql).hangup? = some .prepare
    · rw [lost?_of_hangup hangup] at lost
      cases lost
      exact .inPrepare hangup
    · by_cases prepares : script.Prepares sql
      · rw [lost?_of_prepares prepares] at lost
        by_cases late : (script.reply sql).hangup? = some .execute
        · rw [if_pos late] at lost
          cases lost
          exact .inExecute prepares late
        · rw [if_neg late] at lost
          obtain ⟨report, sent, rfl⟩ := Option.map_eq_some_iff.mp lost
          refine .afterRows prepares ?_ sent
          rcases place : (script.reply sql).hangup? with _ | (_ | _)
          · rfl
          · exact absurd place hangup
          · exact absurd place late
      · rw [lost?_of_not_prepares hangup prepares] at lost
        cases lost

end Translated

theorem breaksOff_iff {script : Script} {sql reason : String} {mode : Mode} :
    BreaksOff script sql mode reason ↔ (mode.execute script sql).lost? = some reason := by
  cases mode with
  | translated => exact Translated.breaksOff_iff
  | native => exact Native.breaksOff_iff

/-! ## What a query answers -/

/-- The type with a number depends on the types that the database has added, not on the replies. -/
theorem Script.typeAt_congr {script script' : Script} (types : script'.types = script.types)
    (fuel oid : Nat) : script'.typeAt fuel oid = script.typeAt fuel oid := by
  induction fuel generalizing oid with
  | zero => rfl
  | succ fuel ih => simp only [typeAt, types, ih]

theorem Script.type?_congr {script script' : Script} (types : script'.types = script.types) :
    script'.type? = script.type? := by
  funext oid
  rw [type?, type?, types, typeAt_congr types]

/-- A query depends on the server's reply to it, and on no other reply. -/
theorem Mode.execute_congr {script script' : Script} {sql : String} (mode : Mode)
    (types : script'.types = script.types) (reply : script'.reply sql = script.reply sql) :
    mode.execute script' sql = mode.execute script sql := by
  cases mode with
  | translated =>
    have typed := Script.type?_congr types
    rw [Mode.execute, Translated.execute, Translated.execute, reply, typed]
  | native => rw [Mode.execute, Native.execute, Native.execute, reply]

theorem Translated.row_eq_error {index : Nat} {columns : List TypedColumn}
    {values : List RawValue} {e : BackendError} (h : row index columns values = .error e) :
    ∃ label name fault, e = .undecodable label name fault := by
  induction columns generalizing index values with
  | nil => cases h
  | cons column columns ih =>
    cases values with
    | nil => cases h
    | cons value values =>
      rw [row] at h
      rcases bind_eq_error h with first | ⟨c, h⟩
      · rw [cell] at first
        split at first
        · cases first
        · cases first
          exact ⟨_, _, _, rfl⟩
      · rcases bind_eq_error h with others | ⟨cs, h⟩
        · exact ih others
        · cases h

theorem Native.row_eq_error {index : Nat} {values : List RawValue} {failure : Failure}
    (h : row index values = .error failure) : ∃ message, failure = .panicked message := by
  induction values generalizing index with
  | nil => cases h
  | cons value values ih =>
    rw [row] at h
    rcases bind_eq_error h with first | ⟨c, h⟩
    · cases value with
      | none => cases first
      | some raw =>
        rw [cell] at first
        split at first
        · cases first
        · cases first
          exact ⟨_, rfl⟩
    · rcases bind_eq_error h with others | ⟨cs, h⟩
      · exact ih others
      · cases h

/-- A statement is prepared and executed, and its rows arrive, each as wide as the columns. -/
structure Script.Returns (script : Script) (sql : String)
    (columns : List Translated.TypedColumn) : Prop where
  stays : (script.reply sql).hangup? = none
  prepared : (script.reply sql).prepareError? = none
  typed : (script.reply sql).columns.mapM
    (fun column => (script.type? column.2).map (Translated.TypedColumn.mk column.1)) = some columns
  parameters : (script.reply sql).parameters = 0
  width : ∀ values ∈ (script.reply sql).rows, values.length = columns.length
  executed : (script.reply sql).executeError? = none

namespace Translated

variable {script : Script} {sql : String} {columns : List TypedColumn}

theorem outcome_of_returns (returns : script.Returns sql columns) :
    (execute script sql).outcome = (results columns (script.reply sql).rows).mapError .error := by
  have fits : ¬ ((script.reply sql).rows.any fun r => r.length ≠ columns.length) = true := by
    simpa using returns.width
  simp only [execute, returns.stays, returns.prepared, returns.typed, returns.parameters,
    returns.executed, if_neg fits]
  rfl

/-- A statement whose rows do not arrive fails before any value is looked at. -/
theorem outcome_of_not_returns (refused : ∀ columns, ¬ script.Returns sql columns) :
    ∃ e, (execute script sql).outcome = .error (.error (.server e)) := by
  rw [execute]
  split
  · exact ⟨_, rfl⟩
  · next stays =>
    split
    · exact ⟨_, rfl⟩
    · next prepared =>
      dsimp only
      split
      · exact ⟨_, rfl⟩
      · next columns typed =>
        split
        · exact ⟨_, rfl⟩
        · next parameters =>
          split
          · exact ⟨_, rfl⟩
          · next goesOn =>
            split
            · exact ⟨_, rfl⟩
            · next fits =>
              split
              · exact ⟨_, rfl⟩
              · next executed =>
                have answers : (script.reply sql).hangup? = none := by
                  rcases place : (script.reply sql).hangup? with _ | (_ | _)
                  · rfl
                  · exact absurd place stays
                  · exact absurd place goesOn
                exact absurd ⟨answers, prepared, typed, Decidable.of_not_not parameters,
                  by simpa using fits, executed⟩ (refused columns)

/-- Either the request fails, or what is returned is made of the rows. -/
theorem outcome_cases (script : Script) (sql : String) :
    (∃ e, (execute script sql).outcome = .error (.error (.server e))) ∨
      ∃ columns, (execute script sql).outcome
        = (results columns (script.reply sql).rows).mapError .error := by
  by_cases answered : ∃ columns, script.Returns sql columns
  · obtain ⟨columns, returns⟩ := answered
    exact .inr ⟨columns, outcome_of_returns returns⟩
  · exact .inl (outcome_of_not_returns (not_exists.mp answered))

end Translated

/-- A query that reaches the server does not report a loss, not even its own. -/
theorem Mode.outcome_ne_connectionLost (mode : Mode) (script : Script) (sql reason : String) :
    (mode.execute script sql).outcome ≠ .error (.error (.connectionLost reason)) := by
  intro h
  cases mode with
  | translated =>
    rw [Mode.execute] at h
    rcases Translated.outcome_cases script sql with ⟨e, failed⟩ | ⟨columns, ran⟩
    · rw [failed] at h
      cases h
    · rw [ran, Translated.results] at h
      cases read : (script.reply sql).rows.mapM (Translated.row 0 columns) with
      | error e =>
        obtain ⟨row, broken⟩ := mapM_eq_error read
        obtain ⟨label, name, fault, rfl⟩ := Translated.row_eq_error broken
        rw [read] at h
        cases h
      | ok rows =>
        rw [read] at h
        cases h
  | native =>
    rw [Mode.execute, Native.execute] at h
    cases received : Native.receive none (script.reply sql).messages with
    | error e =>
      simp only [received] at h
      cases h
    | ok events =>
      simp only [received, Native.results] at h
      rcases bind_eq_error h with broken | ⟨kept, h⟩
      · obtain ⟨kept, event, broken⟩ := foldlM_eq_error broken
        cases event with
        | description | ignored => cases broken
        | complete =>
          rw [Native.step] at broken
          split at broken <;> cases broken
        | row labels values =>
          rw [Native.step] at broken
          rcases bind_eq_error broken with broken | ⟨cells, broken⟩
          · obtain ⟨message, other⟩ := Native.row_eq_error broken
            cases other
          · cases broken
      · cases h

end RowCheck.Server
