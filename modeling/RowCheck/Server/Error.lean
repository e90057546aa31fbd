import RowCheck.Fault
import RowCheck.Server.Types
import RowCheck.Server.SqlState
import RowCheck.Text.Utf8
import RowCheck.Json.Fault
import RowCheck.Text.Digits

/-!
# Errors around the server

Reports that the server sends, faults of the values that it sends, and the ways in which a request
to it can fail.
-/

namespace RowCheck.Server

/-- An error as the server reports it. -/
structure Report where
  severity : String
  code : String
  message : String
  detail? : Option String
  hint? : Option String
  /-- The place in the statement, as the server writes it. -/
  position? : Option String
  deriving DecidableEq, Repr

namespace Report

/-- The report in words: its severity and message, then detail and hint on lines of their own. -/
def text (r : Report) : String :=
  s!"{r.severity}: {r.message}"
    ++ (r.detail?.elim "" fun d => s!"\nDETAIL: {d}")
    ++ (r.hint?.elim "" fun h => s!"\nHINT: {h}")

/-- The severities, each with its tag. -/
def severities : List (String × String) :=
  [("DEBUG", "Debug"), ("ERROR", "Error"), ("FATAL", "Fatal"), ("INFO", "Info"),
    ("LOG", "Log"), ("NOTICE", "Notice"), ("PANIC", "Panic"), ("WARNING", "Warning")]

/-- A severity by its tag. -/
def severityRecord (severity : String) : String :=
  (severities.lookup severity).elim "None" fun tag => s!"Some({tag})"

/-- The place that a text spells: decimal digits, which may have a plus sign, within 32 bits. -/
def place? (text : String) : Option Nat :=
  let digits : List Char :=
    match text.toList with
    | '+' :: ds => ds
    | ds => ds
  let n := Text.ofDigits digits
  if !digits.isEmpty && digits.all Text.isDigit && decide (n < 0x100000000) then some n else none

/-- What is wrong with the form of a report: its severity is none of those there are, or its place
is no number. -/
def fault? (r : Report) : Option String :=
  if (severities.lookup r.severity).isNone then some "\x60V\x60 field contained an invalid value"
  else if r.position?.any fun p => (place? p).isNone then
    some "\x60P\x60 field did not contain an integer"
  else none

/-- The report as the record that shows all its fields. -/
def record (r : Report) : String :=
  let optional (s? : Option String) := s?.elim "None" fun s => "Some(" ++ Text.quoted s ++ ")"
  let severity := Text.quoted r.severity
  let parsed := severityRecord r.severity
  let code := SqlState.record r.code
  let message := Text.quoted r.message
  let detail := optional r.detail?
  let hint := optional r.hint?
  let position := (r.position?.bind place?).elim "None" fun p => s!"Some(Original({p}))"
  s!"DbError \x7b severity: {severity}, parsed_severity: {parsed}, code: {code}, "
    ++ s!"message: {message}, detail: {detail}, hint: {hint}, position: {position}, "
    ++ "where_: None, schema: None, table: None, column: None, datatype: None, constraint: None, "
    ++ "file: None, line: None, routine: None \x7d"

end Report

/-- Why a value that the server sent cannot be read. -/
inductive DecodeFault where
  | described (message : String)
  /-- The value ends before a field of fixed size does. -/
  | unexpectedEnd
  | wasNull
  | utf8 (fault : Text.Utf8.Fault)
  | json (fault : Json.Fault)
  /-- The type has no reader. -/
  | wrongType (type : ServerType)
  /-- A reader of another kind failed. -/
  | foreign (source : Fault)

namespace DecodeFault

/-- The reader that is asked last, by its full name. -/
def textReader : String := "core::option::Option<queryassert::db::postgres::ServerText>"

def message : DecodeFault → String
  | .described message => message
  | .unexpectedEnd => "failed to fill whole buffer"
  | .wasNull => "a Postgres value was \x60NULL\x60"
  | .utf8 fault => fault.message
  | .json fault => fault.message
  | .wrongType type =>
    s!"cannot convert between the Rust type \x60{textReader}\x60 "
      ++ s!"and the Postgres type \x60{type.name}\x60"
  | .foreign source => source.message

/-- The fault as the record it is reported in. -/
def record : DecodeFault → String
  | .described message => Text.quoted message
  | .unexpectedEnd =>
    "Error \x7b kind: UnexpectedEof, message: \"failed to fill whole buffer\" \x7d"
  | .wasNull => "WasNull"
  | .utf8 fault => fault.record
  | .json fault => fault.record
  | .wrongType type =>
    let reader := Text.quoted textReader
    s!"WrongType \x7b postgres: {type.record}, rust: {reader} \x7d"
  | .foreign source => source.record

/-- The fault with all that is behind it. -/
def fault : DecodeFault → Fault
  | .foreign source => source
  | f => .root f.message f.record

end DecodeFault

/-- How a request to the server can fail. -/
inductive Error where
  /-- The server reported an error. -/
  | reported (report : Report)
  | closed
  | parameters (given needed : Nat)
  | unexpectedMessage
  | malformedReply (cause : String)
  | unsendable (cause : String)
  | undecodable (index : Nat) (fault : DecodeFault)

namespace Error

/-- The failure that a report of the server stands for; one of the wrong form cannot be read. -/
def ofReport (r : Report) : Error :=
  match r.fault? with
  | none => .reported r
  | some cause => .malformedReply cause

/-- The error in words. -/
def message : Error → String
  | .reported _ => "db error"
  | .closed => "connection closed"
  | .parameters given needed => s!"expected {needed} parameters but got {given}"
  | .unexpectedMessage => "unexpected message from server"
  | .malformedReply _ => "error parsing response from server"
  | .unsendable _ => "error encoding message to server"
  | .undecodable index _ => s!"error deserializing column {index}"

/-- A text or value of the wrong form, as what an error was caused by. -/
def invalidInput (cause : String) : Fault :=
  .root cause ("Custom \x7b kind: InvalidInput, error: " ++ Text.quoted cause ++ " \x7d")

/-- What the error was caused by. -/
def source? : Error → Option Fault
  | .reported report => some (.root report.text report.record)
  | .malformedReply cause | .unsendable cause => some (invalidInput cause)
  | .undecodable _ fault => some fault.fault
  | .closed | .parameters .. | .unexpectedMessage => none

/-- The sort of the error. -/
def kind : Error → String
  | .reported _ => "Db"
  | .closed => "Closed"
  | .parameters given needed => s!"Parameters({given}, {needed})"
  | .unexpectedMessage => "UnexpectedMessage"
  | .malformedReply _ => "Parse"
  | .unsendable _ => "Encode"
  | .undecodable index _ => s!"FromSql({index})"

/-- The error as the record it is reported in. -/
def record (e : Error) : String :=
  let cause := e.source?.elim "None" fun source => s!"Some({source.record})"
  s!"Error \x7b kind: {e.kind}, cause: {cause} \x7d"

/-- The error with all that is behind it. -/
def fault (e : Error) : Fault := .of e.message e.record e.source?

end Error

end RowCheck.Server
