import RowCheck.Server.Script
import RowCheck.Wire.Value
import RowCheck.Results
import RowCheck.Failure

/-!
# Executing statements on a server

The two ways to run a query. In the translated way the statement is prepared and every binary value
is read by its type; in the native way the text is sent as it is and the server's own text of every
value is kept, of the rows of the last statement only.
-/

namespace RowCheck.Server

/-- How queries are executed. -/
inductive Mode where
  | translated
  | native
  deriving DecidableEq, Repr

/-- A value as it arrives; `NULL` is nothing. -/
abbrev RawValue := Option (List UInt8)

/-- What one request leads to: its outcome, and the reason if the connection is lost with it. -/
structure Exchange where
  outcome : Except Failure Results
  lost? : Option String

/-- A request that fails. -/
def Exchange.failed (e : Error) (lost? : Option String) : Exchange :=
  ⟨.error (.error (.server e)), lost?⟩

/-- A request during which the server hangs up. -/
def Exchange.hungUp : Exchange := .failed .closed (some (Error.message .closed))

/-- Why the connection is lost after a reply. -/
def Reply.lossAfter (reply : Reply) : Option String :=
  reply.thenLost?.map fun report => (Error.ofReport report).message

/-- A row of another width than the columns. -/
def wrongWidth : Error := .malformedReply "DataRow field count does not match the number of columns"

namespace Translated

/-- A column of a prepared statement. -/
structure TypedColumn where
  label : String
  type : ServerType

/-- The cell of a value, or the fault of its column. -/
def cell (index : Nat) (column : TypedColumn) (value : RawValue) : Except BackendError Cell :=
  match Wire.decode column.type value with
  | .ok c => .ok c
  | .error fault => .error (.undecodable column.label column.type.name (.undecodable index fault))

/-- The cells of a row, from the column with number `index` on. -/
def row (index : Nat) : List TypedColumn → List RawValue → Except BackendError (List Cell)
  | column :: columns, value :: values => do
    let c ← cell index column value
    let cs ← row (index + 1) columns values
    return c :: cs
  | _, _ => .ok []

/-- The result of the rows of a statement; the first value that cannot be read fails it. -/
def results (columns : List TypedColumn) (rows : List (List RawValue)) :
    Except BackendError Results := do
  let rows ← rows.mapM (row 0 columns)
  return ⟨columns.map fun c => ⟨c.label, c.type.columnType⟩, rows⟩

/-- Prepares a statement and runs it. -/
def execute (script : Script) (sql : String) : Exchange :=
  let reply := script.reply sql
  if reply.hangup? = some .prepare then .hungUp
  else
    match reply.prepareError? with
    | some report => .failed (.ofReport report) none
    | none =>
      let typed (column : String × Nat) := (script.type? column.2).map (TypedColumn.mk column.1)
      match reply.columns.mapM typed with
      | none => .failed .unexpectedMessage none
      | some columns =>
        if reply.parameters ≠ 0 then .failed (.parameters 0 reply.parameters) none
        else if reply.hangup? = some .execute then .hungUp
        else if reply.rows.any fun r => r.length ≠ columns.length then
          .failed wrongWidth reply.lossAfter
        else
          match reply.executeError? with
          | some report => .failed (.ofReport report) reply.lossAfter
          | none => ⟨(results columns reply.rows).mapError .error, reply.lossAfter⟩

/-- A query in the translated way never breaks down: the faults of its values are errors. -/
theorem outcome_ne_panicked (script : Script) (sql message : String) :
    (execute script sql).outcome ≠ .error (.panicked message) := by
  have failed (e : Error) (lost? : Option String) :
      (Exchange.failed e lost?).outcome ≠ .error (.panicked message) := by
    intro broken
    cases broken
  have read (outcome : Except BackendError Results) :
      outcome.mapError Failure.error ≠ .error (.panicked message) := by
    intro broken
    cases outcome <;> cases broken
  simp only [execute]
  repeat' split
  all_goals first | exact failed _ _ | exact read _

end Translated

namespace Native

/-- A message as the client hands it on: a row comes with the labels of the latest description. -/
inductive Event where
  | description (labels : List String)
  | row (labels : List String) (values : List RawValue)
  | complete
  | ignored

/-- What the client makes of the messages of a reply, given the labels of the latest description.
An empty query counts as a completed command, and a notice that cannot be read ends the
connection. -/
def receive (labels? : Option (List String)) : List Message → Except Error (List Event)
  | [] => .ok []
  | .description labels :: ms => do return .description labels :: (← receive (some labels) ms)
  | .row values :: ms =>
    match labels? with
    | none => .error .unexpectedMessage
    | some labels =>
      if values.length ≠ labels.length then .error wrongWidth
      else do return .row labels values :: (← receive labels? ms)
  | .complete :: ms | .emptyQuery :: ms => do return .complete :: (← receive labels? ms)
  | .notice report :: ms =>
    if report.fault?.isSome then .error .closed
    else do return .ignored :: (← receive labels? ms)
  | .error report :: _ => .error (.ofReport report)
  | .unexpected :: _ => .error .unexpectedMessage
  | .close :: _ => .error .closed

/-- The rows collected so far, and whether the statement in progress has announced rows. -/
structure Collected where
  columns : List Column
  rows : List (List Cell)
  described : Bool

/-- A column whose values are kept as texts. -/
def textColumn (label : String) : Column := ⟨label, .text⟩

/-- The cell of a value. A text that is not UTF-8 breaks the connection's handling of the query. -/
def cell (index : Nat) : RawValue → Except Failure Cell
  | none => .ok .null
  | some raw =>
    match Text.Utf8.toString raw with
    | .ok s => .ok (.text s)
    | .error _ =>
      .error (.ofPanic (.text
        s!"error retrieving column {index}: {(Error.undecodable index .wasNull).message}"))

/-- The cells of a row, from the column with number `index` on. -/
def row (index : Nat) : List RawValue → Except Failure (List Cell)
  | [] => .ok []
  | value :: values => do
    let c ← cell index value
    let cs ← row (index + 1) values
    return c :: cs

/-- Takes one message into account. A description starts anew; a command without one drops what
earlier statements left. -/
def step (c : Collected) : Event → Except Failure Collected
  | .description labels => .ok ⟨labels.map textColumn, [], true⟩
  | .complete =>
    if c.described then .ok { c with described := false } else .ok ⟨[], [], false⟩
  | .row labels values => do
    let columns := if c.columns.isEmpty then labels.map textColumn else c.columns
    return ⟨columns, c.rows ++ [← row 0 values], true⟩
  | .ignored => .ok c

/-- The result of the messages of a reply. -/
def results (events : List Event) : Except Failure Results := do
  let c ← events.foldlM step ⟨[], [], false⟩
  return ⟨c.columns, c.rows⟩

/-- Why the connection is lost within a reply: the server hangs up, or a notice cannot be read. -/
def lossWithin (reply : Reply) : Option String :=
  reply.messages.findSome? fun
    | .close => some (Error.message .closed)
    | .notice report => report.fault?.map fun _ => (Error.ofReport report).message
    | _ => none

/-- Sends a text as it is. -/
def execute (script : Script) (sql : String) : Exchange :=
  let reply := script.reply sql
  let lost? := lossWithin reply <|> reply.lossAfter
  match receive none reply.messages with
  | .error e => .failed e lost?
  | .ok events => ⟨results events, lost?⟩

end Native

/-- Runs a statement. -/
def Mode.execute : Mode → Script → String → Exchange
  | .translated => Translated.execute
  | .native => Native.execute

end RowCheck.Server
